import SpotRebalance.Proofs.ClusterApi.Log

/-! # Which events can be sent

A request goes to a target that names its object, and names may hold anything, so a target may be no
URI. Events about nodes can always be sent (`exists_uri_of_node`). An event about a pod can be sent
if the pod can be evicted: the two targets begin the same, and what follows there is harmless
(`exists_uri_of_evict`). So a pod that was evicted with success can be written of
(`ApiServer.Asked.exists_uri`). -/

namespace SpotRebalance

universe u

/-! ## Paths -/

namespace Uri

variable {c : Char} {cs front rest : List Char}

/-- Whether characters up to a fragment may stand in a query. -/
def readsAsQuery (cs : List Char) : Bool := (cs.takeWhile (· != '#')).all isQueryChar

/-- Whether characters are a path, perhaps with a query. -/
def readsAsPath (cs : List Char) : Bool := (parsePath cs).isOk

theorem readsAsPath_eq (cs : List Char) :
    readsAsPath cs = (((cs.takeWhile (· != '#')).takeWhile (· != '?')).all isPathChar &&
      (((cs.takeWhile (· != '#')).dropWhile (· != '?')).drop 1).all isQueryChar) := by
  rw [readsAsPath, parsePath]
  cases ((cs.takeWhile (· != '#')).takeWhile (· != '?')).all isPathChar <;>
    cases (((cs.takeWhile (· != '#')).dropWhile (· != '?')).drop 1).all isQueryChar <;> rfl

/-- **A path is read character by character**, up to a fragment, and from a question mark on as a
query. -/
theorem readsAsPath_cons (c : Char) (cs : List Char) :
    readsAsPath (c :: cs) =
      if c = '#' then true else if c = '?' then readsAsQuery cs else isPathChar c &&
        readsAsPath cs := by
  rw [readsAsPath_eq, readsAsPath_eq, readsAsQuery]
  by_cases hfragment : c = '#'
  · simp [hfragment]
  · by_cases hquery : c = '?'
    · simp [hquery]
    · simp [hfragment, hquery, Bool.and_assoc]

theorem readsAsQuery_cons (c : Char) (cs : List Char) :
    readsAsQuery (c :: cs) = if c = '#' then true else isQueryChar c && readsAsQuery cs := by
  by_cases hfragment : c = '#' <;> simp [readsAsQuery, hfragment]

/-- The end of a query may be replaced. -/
theorem readsAsQuery_append {last : List Char} (hlast : readsAsQuery last)
    (h : readsAsQuery (front ++ rest)) :
    readsAsQuery (front ++ last) := by
  induction front with
  | nil => exact hlast
  | cons c front ih =>
    rw [List.cons_append, readsAsQuery_cons] at h ⊢
    split
    · rfl
    · rename_i hfragment
      rw [if_neg hfragment, Bool.and_eq_true] at h
      rw [h.1, ih h.2]
      rfl

/-- **The end of a path may be replaced** by what reads as a path and as a query: it depends on the
front which one it is. -/
theorem readsAsPath_append {last : List Char} (hpath : readsAsPath last)
    (hquery : readsAsQuery last) (h : readsAsPath (front ++ rest)) :
    readsAsPath (front ++ last) := by
  induction front with
  | nil => exact hpath
  | cons c front ih =>
    rw [List.cons_append, readsAsPath_cons] at h ⊢
    split
    · rfl
    · rename_i hfragment
      rw [if_neg hfragment] at h
      split
      · rename_i hmark
        rw [if_pos hmark] at h
        exact readsAsQuery_append hquery h
      · rename_i hmark
        rw [if_neg hmark, Bool.and_eq_true] at h
        rw [h.1, ih h.2]
        rfl

/-- A text that starts with a slash is a URI exactly if it is a path and not too long. -/
theorem isOk_parse_iff {s : String} (h : s.toList.head? = some '/') :
    (parse s).isOk ↔ s.utf8ByteSize ≤ longest ∧ readsAsPath s.toList := by
  have hstar : s.toList ≠ ['*'] := by
    intro heq
    rw [heq] at h
    cases h
  have hempty : s.toList.isEmpty = false := by
    cases hlist : s.toList with
    | nil => rw [hlist] at h; cases h
    | cons c cs => rfl
  rw [parse]
  by_cases hlong : longest < s.utf8ByteSize
  · simp [hlong, Nat.not_le.2 hlong, Except.isOk, Except.toBool]
  · simp [hlong, hempty, hstar, h, readsAsPath, Nat.not_lt.1 hlong]

end Uri

/-! ## Targets of events -/

namespace ApiRequest

/-- A request that names its object can be sent exactly if its target is a URI. -/
theorem exists_uri_iff {r : ApiRequest} (h : r.lacksName = false) :
    (∃ uri, r.uri = .ok uri) ↔ (Uri.parse r.target).isOk := by
  rw [uri, h]
  cases Uri.parse r.target <;> simp [Except.isOk, Except.toBool]

/-- The first character of a text, whatever follows. -/
theorem head?_append {first : String} {c : Char} (h : first.toList.head? = some c)
    (middle last : String) :
    (first ++ middle ++ last).toList.head? = some c := by
  rw [String.toList_append, String.toList_append, List.append_assoc, List.head?_append, h]
  rfl

/-- The path of a namespace starts with a slash. -/
theorem head?_namespacePath (ns rest : String) :
    (namespacePath ns ++ rest).toList.head? = some '/' :=
  head?_append (by decide +kernel) ns rest

/-- **Events about nodes can be sent.** -/
theorem exists_uri_of_node (name : String) (kind : EventKind) (reason message : String) :
    ∃ uri, (createEvent ⟨.node name, kind, reason, message⟩).uri = .ok uri := by
  have htarget : (createEvent ⟨.node name, kind, reason, message⟩).target =
      "/api/v1/namespaces/default/events?" := rfl
  rw [exists_uri_iff rfl, htarget]
  decide +kernel

/-- **An event about a pod can be sent if the pod can be evicted.** -/
theorem exists_uri_of_evict {pod : Pod} {graceSeconds : Nat}
    (h : ∃ uri, (evict pod graceSeconds).uri = .ok uri) (kind : EventKind)
    (reason message : String) :
    ∃ uri, (createEvent ⟨.pod pod, kind, reason, message⟩).uri = .ok uri := by
  have hevict : (evict pod graceSeconds).target = namespacePath pod.ns ++
      ("/pods/" ++ pod.name ++ "/eviction?") := by
    simp [target, path, podPath, selection, String.append_assoc]
  have hevent : (createEvent ⟨.pod pod, kind, reason, message⟩).target = namespacePath pod.ns ++
      "/events?" := by
    simp [target, path, selection, EventSubject.keptIn, String.append_assoc]
  rw [exists_uri_iff rfl, hevict, Uri.isOk_parse_iff (head?_namespacePath ..)] at h
  rw [exists_uri_iff rfl, hevent, Uri.isOk_parse_iff (head?_namespacePath ..)]
  obtain ⟨hshort, hpath⟩ := h
  -- both targets start with the path of the namespace, and that of the event goes on with less
  constructor
  · refine Nat.le_trans ?_ hshort
    simp only [String.utf8ByteSize_append]
    have hlast : "/events?".utf8ByteSize ≤ "/eviction?".utf8ByteSize := by decide
    omega
  · rw [String.toList_append] at hpath ⊢
    exact Uri.readsAsPath_append (by decide +kernel) (by decide +kernel) hpath

end ApiRequest

/-! ## Evicted pods -/

/-- **A pod that was evicted with success can be written of.** -/
theorem ApiServer.Asked.exists_uri {σ : Type u} {api : ApiServer σ} {x : ApiExchange}
    (h : api.Asked x) {pod : Pod} (heviction : x.eviction? = some (pod, .ok ())) (kind : EventKind)
    (reason message : String) :
    ∃ uri, (ApiRequest.createEvent ⟨.pod pod, kind, reason, message⟩).uri = .ok uri := by
  obtain ⟨sentAt, request, answeredAt, answer⟩ := x
  cases request with
  | evict other graceSeconds =>
    obtain ⟨rfl, rfl⟩ := Prod.mk.inj (Option.some.inj heviction)
    have hevict : ∃ uri, (ApiRequest.evict other graceSeconds).uri = .ok uri := by
      cases huri : (ApiRequest.evict other graceSeconds).uri with
      | ok uri => exact ⟨uri, rfl⟩
      | error fault => cases h.unsendable huri
    exact ApiRequest.exists_uri_of_evict hevict kind reason message
  | listNodes | listPods | listBudgets | getPod | createEvent => cases heviction

end SpotRebalance
