import SpotRebalance.Manifest.Pod
import SpotRebalance.Proofs.Resources.Amounts

/-! # The effective requests of a pod

The containers of a pod run together and its init containers one after the other, so a pod requests
of every resource what its containers request together or the most that one of its init containers
does, whichever is more, and the overhead on top (`PodSpecManifest.demand`). Each quantity is
rounded up to whole units by itself. The sum is exact, but that it stops at the greatest amount, and
a named resource is listed if some quantity mentions it (`EffectiveRequests`).

The requests are known exactly if every quantity can be read. Otherwise the pod requests nothing,
and remembers the first quantity that cannot be read: in the containers, then in the init
containers, then in the overhead, and by name in each (`requests_effective`). -/

namespace SpotRebalance

/-! ## One resource list -/

namespace ResourceList

/-- The names with a place of their own. -/
def fixedNames : List String := ["cpu", "memory", "pods"]

theorem isFixed_iff {name : String} : isFixed name = true ↔ name ∈ fixedNames := by
  simp [isFixed, fixedNames, or_assoc]

/-- **What a list requests of a resource**, rounded up by itself: thousandths of processor time, and
whole units of all else. -/
def requested (list : ResourceList) (name : String) : ℕ :=
  match (list.get? name).bind Quantity.ofText? with
  | some q => if name = "cpu" then q.millis.val else q.units.val
  | none => 0

/-- The amount of a quantity that can be read. -/
theorem amount?_eq (name text : String) :
    amount? name text = (Quantity.ofText? text).map fun q =>
      if name = "cpu" then q.millis else q.units := by
  rw [amount?, amount, Quantity.ofText]
  cases Quantity.ofText? text <;> rfl

/-- The amounts of a list are what it requests. -/
theorem val_amountOf (list : ResourceList) (name : String) :
    (list.amountOf name).val = list.requested name := by
  rw [amountOf, requested]
  cases list.get? name with
  | none => rfl
  | some text =>
    rw [Option.bind_some, Option.bind_some, amount?_eq]
    cases Quantity.ofText? text with
    | none => rfl
    | some q =>
      rw [Option.map_some, Option.getD_some]
      split <;> rfl

end ResourceList

/-- The name under which a resource is requested. -/
def ResourceKind.name : ResourceKind → String
  | .cpu => "cpu"
  | .memory => "memory"
  | .named name => name

/-- A resource is named by what is no name of another. -/
def ResourceKind.IsPlain : ResourceKind → Prop
  | .named name => name ∉ ResourceList.fixedNames
  | _ => True

namespace ResourceList

/-- A list holds what it requests of every resource. -/
theorem val_amount_readable (list : ResourceList) {kind : ResourceKind} (hkind : kind.IsPlain) :
    (list.readable.amount kind).val = list.requested kind.name := by
  cases kind with
  | cpu => exact val_amountOf list "cpu"
  | memory => exact val_amountOf list "memory"
  | named name =>
    have hfree : isFixed name = false := Bool.eq_false_iff.2 fun h => hkind (isFixed_iff.1 h)
    rw [ResourceKind.name, ← val_amountOf, Resources.amount, Resources.scalar, readable,
      NameTable.get?_filterMap, amountOf]
    simp [hfree]

/-- A list holds the named resources that it mentions, as far as they can be read. -/
theorem contains_readable {list : ResourceList}
    (hread : ∀ e ∈ list.entries, (Quantity.ofText? e.2).isSome) (name : String) :
    list.readable.scalars.contains name ↔ name ∉ fixedNames ∧
      ∃ text, (name, text) ∈ list.entries := by
  rw [NameTable.contains, readable, NameTable.get?_filterMap, ← isFixed_iff]
  simp only [NameTable.mem_entries_iff]
  cases hget : list.get? name with
  | none => simp
  | some text =>
    have hsome := hread (name, text) (NameTable.mem_entries_iff.2 hget)
    cases hfixed : isFixed name <;> simp [amount?_eq, hsome]

/-- What is said of a quantity that cannot be read. -/
def complaint? (e : String × String) : Option String :=
  if (Quantity.ofText? e.2).isSome then none
  else some (e.1 ++ ": " ++ InvalidQuantity.message ⟨e.2⟩)

theorem complaint?_eq_none_iff {e : String × String} :
    complaint? e = none ↔ (Quantity.ofText? e.2).isSome := by
  rw [complaint?, ite_eq_left_iff]
  simp [Option.isSome_iff_ne_none]

theorem complaint?_eq_some_iff {e : String × String} {fault : String} :
    complaint? e = some fault ↔ Quantity.ofText? e.2 = none ∧
      e.1 ++ ": " ++ InvalidQuantity.message ⟨e.2⟩ = fault := by
  rw [complaint?, Option.ite_none_left_eq_some, Option.not_isSome_iff_eq_none, Option.some.injEq]

/-- The fault of a list is the first thing to be said of its quantities. -/
theorem fault?_eq (list : ResourceList) : list.fault? = list.entries.findSome? complaint? := by
  rw [fault?]
  congr 1
  funext e
  rw [amount, Quantity.ofText, complaint?]
  cases Quantity.ofText? e.2 <;> rfl

end ResourceList

/-! ## All lists of a pod -/

namespace PodSpecManifest

/-- **All quantities that a pod requests**, each with the name of its resource: those of the
containers, of the init containers and of the overhead, in name order within each list. -/
def quantities (s : PodSpecManifest) : List (String × String) :=
  s.containers.flatMap (·.requests.entries) ++ s.initContainers.flatMap (·.requests.entries) ++
    s.overhead.entries

/-- All quantities can be read. -/
def Readable (s : PodSpecManifest) : Prop := ∀ e ∈ s.quantities, (Quantity.ofText? e.2).isSome

/-- **The first quantity that cannot be read.** -/
def FirstUnreadable (s : PodSpecManifest) (name text : String) : Prop :=
  ∃ before after, s.quantities = before ++ (name, text) :: after ∧
    (∀ e ∈ before, (Quantity.ofText? e.2).isSome) ∧
    Quantity.ofText? text = none

/-- **What a pod requests of a resource**, exactly: what its containers request together or the most
that an init container requests, whichever is more, and the overhead. -/
def demand (s : PodSpecManifest) (name : String) : ℕ :=
  max (s.containers.map fun c => c.requests.requested name).sum
    ((s.initContainers.map fun c => c.requests.requested name).foldl max 0) +
      s.overhead.requested name

/-- **Resources are what a pod requests.** -/
structure EffectiveRequests (s : PodSpecManifest) (r : Resources) : Prop where
  /-- The processor time in thousandths. -/
  cpu : r.cpuMillis.val = min Amount.greatest (s.demand "cpu")
  /-- The memory. -/
  memory : r.memoryBytes.val = min Amount.greatest (s.demand "memory")
  /-- No pod slots. -/
  slots : r.pods = 0
  /-- The resources of all other names. -/
  named : ∀ name ∉ ResourceList.fixedNames, (r.scalar name).val =
    min Amount.greatest (s.demand name)
  /-- Those are listed that some quantity mentions. -/
  listed : ∀ name, r.scalars.contains name ↔ name ∉ ResourceList.fixedNames ∧
    ∃ text, (name, text) ∈ s.quantities

variable {s : PodSpecManifest}

/-- The first fault is that of the first quantity with one. -/
theorem requestFault?_eq (s : PodSpecManifest) :
    s.requestFault? = s.quantities.findSome? ResourceList.complaint? := by
  have hlists (lists : List ResourceList) :
      lists.findSome? (·.fault?) =
        (lists.flatMap (·.entries)).findSome? ResourceList.complaint? := by
    induction lists with
    | nil => rfl
    | cons list lists ih =>
      rw [List.findSome?_cons, List.flatMap_cons, List.findSome?_append, ← ih,
        ResourceList.fault?_eq]
      cases list.entries.findSome? ResourceList.complaint? <;> rfl
  have hflat : s.resourceLists.flatMap (·.entries) = s.quantities := by
    simp [resourceLists, quantities, List.flatMap_map]
  rw [requestFault?, hlists, hflat]

/-- There is no fault exactly if all quantities can be read. -/
theorem requestFault?_eq_none_iff : s.requestFault? = none ↔ s.Readable := by
  rw [requestFault?_eq, List.findSome?_eq_none_iff, Readable]
  exact forall₂_congr fun e _ => ResourceList.complaint?_eq_none_iff

/-- A fault is what is said of the first quantity that cannot be read. -/
theorem firstUnreadable_of_requestFault? {fault : String} (h : s.requestFault? = some fault) :
    ∃ name text, s.FirstUnreadable name text ∧
      fault = name ++ ": " ++ InvalidQuantity.message ⟨text⟩ := by
  rw [requestFault?_eq, List.findSome?_eq_some_iff] at h
  obtain ⟨before, ⟨name, text⟩, after, hquantities, hcomplaint, hbefore⟩ := h
  obtain ⟨hunread, rfl⟩ := ResourceList.complaint?_eq_some_iff.1 hcomplaint
  have hread : ∀ e ∈ before, (Quantity.ofText? e.2).isSome := fun e he =>
    ResourceList.complaint?_eq_none_iff.1 (hbefore e he)
  exact ⟨name, text, ⟨before, after, hquantities, hread, hunread⟩, rfl⟩

/-- The requests are known if there is no fault. -/
theorem requests_eq_ok_iff {r : Resources} :
    s.requests = .ok r ↔ s.Readable ∧ r = s.readableRequests := by
  rw [← requestFault?_eq_none_iff, requests]
  cases s.requestFault? <;> simp [eq_comm]

theorem requests_eq_error_iff {fault : String} :
    s.requests = .error fault ↔ s.requestFault? = some fault := by
  rw [requests]
  cases s.requestFault? <;> simp

/-- **The requests that are read are the exact ones**, cut off once at the greatest amount. -/
theorem val_amount_readableRequests (s : PodSpecManifest) (kind : ResourceKind)
    (hkind : kind.IsPlain) :
    (s.readableRequests.amount kind).val = min Amount.greatest (s.demand kind.name) := by
  let running := Resources.sumOf (fun c : ContainerManifest => c.requests.readable) s.containers
  let starting :=
    Resources.maxOf (fun c : ContainerManifest => c.requests.readable) s.initContainers
  -- pod slots are struck out, and they are no amount of a resource
  have hslots : s.readableRequests.amount kind =
      (max running starting + s.overhead.readable).amount kind := by
    cases kind <;> rfl
  have hrunning : (running.amount kind).val =
      min (s.containers.map fun c => c.requests.requested kind.name).sum Amount.greatest := by
    simp only [running, Resources.val_amount_sumOf, ResourceList.val_amount_readable _ hkind]
  have hstarting : (starting.amount kind).val =
      (s.initContainers.map fun c => c.requests.requested kind.name).foldl max 0 := by
    simp only [starting, Resources.val_amount_maxOf, ResourceList.val_amount_readable _ hkind]
  rw [hslots, Resources.val_amount_add, Resources.val_amount_max, hrunning, hstarting,
    ResourceList.val_amount_readable _ hkind, demand]
  omega

/-- Some container lists a named resource exactly if a quantity of some container mentions it. -/
theorem exists_contains_readable {cs : List ContainerManifest}
    (hread : ∀ e ∈ cs.flatMap (·.requests.entries), (Quantity.ofText? e.2).isSome) (name : String) :
    (∃ c ∈ cs, c.requests.readable.scalars.contains name) ↔
      name ∉ ResourceList.fixedNames ∧ ∃ text, (name, text) ∈ cs.flatMap (·.requests.entries) := by
  have hlisted {c : ContainerManifest} (hc : c ∈ cs) := ResourceList.contains_readable
    (fun e he => hread e (List.mem_flatMap.2 ⟨c, hc, he⟩)) name
  constructor
  · rintro ⟨c, hc, hcontains⟩
    obtain ⟨hfree, text, htext⟩ := (hlisted hc).1 hcontains
    exact ⟨hfree, text, List.mem_flatMap.2 ⟨c, hc, htext⟩⟩
  · rintro ⟨hfree, text, htext⟩
    obtain ⟨c, hc, he⟩ := List.mem_flatMap.1 htext
    exact ⟨c, hc, (hlisted hc).2 ⟨hfree, text, he⟩⟩

/-- The named resources that are listed are those that some quantity mentions. -/
theorem contains_readableRequests (hread : s.Readable) (name : String) :
    s.readableRequests.scalars.contains name ↔
      name ∉ ResourceList.fixedNames ∧ ∃ text, (name, text) ∈ s.quantities := by
  let running := Resources.sumOf (fun c : ContainerManifest => c.requests.readable) s.containers
  let starting :=
    Resources.maxOf (fun c : ContainerManifest => c.requests.readable) s.initContainers
  have hscalars : s.readableRequests.scalars =
      (running.scalars.merge max starting.scalars).merge (· + ·) s.overhead.readable.scalars := rfl
  -- each of the three parts lists what its own quantities mention
  have hcontainers := exists_contains_readable
    (fun e he => hread e (List.mem_append_left _ (List.mem_append_left _ he))) name
  have hinit := exists_contains_readable
    (fun e he => hread e (List.mem_append_left _ (List.mem_append_right _ he))) name
  have hoverhead :=
    ResourceList.contains_readable (fun e he => hread e (List.mem_append_right _ he)) name
  rw [hscalars, NameTable.contains_merge, NameTable.contains_merge, Bool.or_eq_true,
    Bool.or_eq_true, Resources.contains_sumOf, Resources.contains_maxOf, hcontainers, hinit,
    hoverhead, quantities]
  simp only [List.mem_append, exists_or, and_or_left]

/-- The requests that are read are effective. -/
theorem effectiveRequests_readableRequests (hread : s.Readable) :
    s.EffectiveRequests s.readableRequests where
  cpu := val_amount_readableRequests s .cpu trivial
  memory := val_amount_readableRequests s .memory trivial
  slots := rfl
  named name hname := val_amount_readableRequests s (.named name) hname
  listed := contains_readableRequests hread

/-- **The requests of a pod.** They are known exactly if every quantity can be read, and then they
are effective and those of the pod. Otherwise the fault is the first quantity that cannot be read,
and the pod requests nothing and remembers it. -/
theorem requests_effective (s : PodSpecManifest) :
    ((∃ r, s.requests = .ok r) ↔ s.Readable) ∧
      (∀ r, s.requests = .ok r → s.EffectiveRequests r ∧
        ∀ m pod, PodManifest.spec m = some s → m.toPod? = some pod →
          pod.requests = r ∧ pod.requestError = none) ∧
      (∀ fault, s.requests = .error fault →
        (∃ name text, s.FirstUnreadable name text ∧
          fault = name ++ ": " ++ InvalidQuantity.message ⟨text⟩) ∧
        ∀ m pod, PodManifest.spec m = some s → m.toPod? = some pod →
          pod.requests = {} ∧ pod.requestError = some fault) := by
  -- a pod takes over the requests and the fault
  have hpod : ∀ m pod, PodManifest.spec m = some s → m.toPod? = some pod →
      pod.requests = s.requests.toOption.getD {} ∧ pod.requestError = s.requestFault? := by
    intro m pod hspec htoPod
    obtain ⟨name, -, rfl⟩ := Option.map_eq_some_iff.1 htoPod
    rw [hspec]
    exact ⟨rfl, rfl⟩
  refine ⟨⟨?_, ?_⟩, fun r hr => ?_, fun fault hfault => ?_⟩
  · rintro ⟨r, hr⟩
    exact (requests_eq_ok_iff.1 hr).1
  · exact fun hread => ⟨_, requests_eq_ok_iff.2 ⟨hread, rfl⟩⟩
  · obtain ⟨hread, rfl⟩ := requests_eq_ok_iff.1 hr
    refine ⟨effectiveRequests_readableRequests hread, fun m pod hspec htoPod => ?_⟩
    obtain ⟨hrequests, herror⟩ := hpod m pod hspec htoPod
    rw [hrequests, herror, hr, requestFault?_eq_none_iff.2 hread]
    exact ⟨rfl, rfl⟩
  · have hsome := requests_eq_error_iff.1 hfault
    refine ⟨firstUnreadable_of_requestFault? hsome, fun m pod hspec htoPod => ?_⟩
    obtain ⟨hrequests, herror⟩ := hpod m pod hspec htoPod
    rw [hrequests, herror, hfault, hsome]
    exact ⟨rfl, rfl⟩

/-- A pod with two containers, an init container that asks for more memory, and some overhead. -/
def training (memory : String) : PodSpecManifest where
  containers := [{ requests := .ofList [("cpu", "500m"), ("memory", memory)] },
    { requests := .ofList [("cpu", "0.0001"), ("nvidia.com/gpu", "1")] }]
  initContainers := [{ requests := .ofList [("memory", "2Gi"), ("ephemeral-storage", "600Gi")] }]
  overhead := .ofList [("cpu", "100m"), ("pods", "3")]

/-- The manifest of a pod. -/
def trainingPod (memory : String) : PodManifest where
  metadata := { name := some "trainer" }
  spec := some (training memory)

/-- Its requests are known if its memory can be read, and otherwise it remembers the text. -/
theorem requests_effective_training :
    (∃ r, (training "1Gi").requests = .ok r ∧ (training "1Gi").EffectiveRequests r ∧
      r.cpuMillis.val = 601 ∧ r.memoryBytes.val = 2147483648) ∧
    ∃ fault pod, (training "12.5.3Gi").requests = .error fault ∧
      fault = "memory: invalid quantity \"12.5.3Gi\"" ∧
      (trainingPod "12.5.3Gi").toPod? = some pod ∧ pod.requests = {} ∧
      pod.requestError = some fault := by
  constructor
  · have hok : (training "1Gi").requests = .ok (training "1Gi").readableRequests := by rfl
    obtain ⟨-, hread, -⟩ := requests_effective (training "1Gi")
    exact ⟨_, hok, (hread _ hok).1, by decide +kernel, by decide +kernel⟩
  · have hfault : (training "12.5.3Gi").requests = .error "memory: invalid quantity \"12.5.3Gi\"" :=
      requests_eq_error_iff.2 (by decide +kernel)
    obtain ⟨-, -, hunread⟩ := requests_effective (training "12.5.3Gi")
    obtain ⟨hrequests, herror⟩ := (hunread _ hfault).2 (trainingPod "12.5.3Gi") _ rfl rfl
    exact ⟨_, _, hfault, rfl, rfl, hrequests, herror⟩

end PodSpecManifest

end SpotRebalance
