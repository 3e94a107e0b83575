import Mathlib.Data.List.Forall2
import SpotRebalance.ClusterApi.Listing
import SpotRebalance.ClusterApi.Scripted
import SpotRebalance.Proofs.Snapshot.Listing

/-! # Selection by fields

Pods are listed with a field selector, by which the server is to leave out those that are not asked
for. The **requirements** of a selector say what it means for a pod (`PodSelection.admits`), and
written out they are the selector that is sent (`PodSelection.text_requirements`).

Whatever the server leaves out by the selector is also left out without it. Pods that have ended are
no part of a snapshot (`live_pods_filter_admits`), and a pod that is bound or has ended does not
count as unschedulable (`unschedulablePods_filter_admits`). So a server that applies the selector
and one that returns every pod lead to the same snapshot and to the same unschedulable pods
(`listings_selective`). -/

namespace SpotRebalance

universe u

variable {σ : Type u}

/-! ## Field selectors -/

/-- A field of a pod that a selector can name. -/
inductive PodField where
  /-- The node the pod is bound to. -/
  | nodeName
  /-- The phase. -/
  | phase

/-- The name of a field in selectors. -/
def PodField.path : PodField → String
  | nodeName => "spec.nodeName"
  | phase => "status.phase"

/-- What a server compares; a field that a pod does not have is empty. -/
def PodField.valueIn (pod : PodManifest) : PodField → String
  | nodeName => (pod.spec.bind (·.nodeName)).getD ""
  | phase => pod.phase.getD ""

/-- **A requirement of a field selector**: a field has a value, or has another one. -/
inductive FieldRequirement where
  /-- The field has the value. -/
  | equals (field : PodField) (value : String)
  /-- The field does not have the value. -/
  | differs (field : PodField) (value : String)

/-- How a requirement is written. -/
def FieldRequirement.text : FieldRequirement → String
  | equals field value => field.path ++ "=" ++ value
  | differs field value => field.path ++ "!=" ++ value

/-- Whether a pod meets a requirement. -/
def FieldRequirement.isMetBy (pod : PodManifest) : FieldRequirement → Bool
  | equals field value => field.valueIn pod == value
  | differs field value => field.valueIn pod != value

/-- The requirements of a selection. -/
def PodSelection.requirements : PodSelection → List FieldRequirement
  | active => [.differs .phase "Succeeded", .differs .phase "Failed"]
  | pending => [.equals .nodeName "", .differs .phase "Succeeded", .differs .phase "Failed"]

/-- **The requirements of a selection are those that are sent.** -/
theorem PodSelection.text_requirements (selection : PodSelection) :
    String.intercalate "," (selection.requirements.map (·.text)) = selection.fields := by
  cases selection <;> decide

/-- **Whether a selection admits a pod**: the pod meets every requirement. -/
def PodSelection.admits (selection : PodSelection) (pod : PodManifest) : Bool :=
  selection.requirements.all (·.isMetBy pod)

/-- **A server that applies field selectors** to what another one lists. -/
def ApiServer.selective (api : ApiServer σ) : ApiServer σ where
  handle
    | .listPods selection => (api.handle (.listPods selection)).map fun answer =>
        answer.map (List.filter selection.admits)
    | .listNodes => api.handle .listNodes
    | .listBudgets => api.handle .listBudgets
    | .getPod pod => api.handle (.getPod pod)
    | .evict pod graceSeconds => api.handle (.evict pod graceSeconds)
    | .createEvent event => api.handle (.createEvent event)

/-! ## What selections admit -/

/-- The phases that a pod never leaves have two names. -/
theorem PodPhase.isTerminal_ofName (name : String) :
    (ofName name).isTerminal = (name == "Succeeded" || name == "Failed") := by
  by_cases hsucceeded : name = "Succeeded"
  · subst hsucceeded
    decide
  by_cases hfailed : name = "Failed"
  · subst hfailed
    decide
  have hnames : (name == "Succeeded" || name == "Failed") = false := by simp [hsucceeded, hfailed]
  rw [hnames]
  -- a phase that is found under the name has it, and those two names are excluded
  cases hfound : ofName? name with
  | none => rw [ofName, hfound]; rfl
  | some phase =>
    have hphase : phase.name = name := by
      rw [ofName?] at hfound
      simpa using List.find?_some hfound
    rw [ofName, hfound]
    cases phase with
    | pending | running | unknown => rfl
    | succeeded => exact absurd hphase.symm hsucceeded
    | failed => exact absurd hphase.symm hfailed

namespace PodManifest

variable {manifest : PodManifest} {pod : Pod}

/-- Whether a pod has ended, from the name of its phase. -/
theorem isTerminal_podPhase (manifest : PodManifest) :
    manifest.podPhase.isTerminal =
      (manifest.phase.getD "" == "Succeeded" || manifest.phase.getD "" == "Failed") := by
  rw [podPhase]
  cases manifest.phase with
  | none => rfl
  | some name => exact PodPhase.isTerminal_ofName name

/-- A pod is not bound if the name of its node is empty. -/
theorem isNone_boundNode? (manifest : PodManifest) :
    manifest.boundNode?.isNone = ((manifest.spec.bind (·.nodeName)).getD "" == "") := by
  rw [boundNode?]
  cases manifest.spec with
  | none => rfl
  | some spec =>
    cases hnode : spec.nodeName with
    | none => simp [PodSpecManifest.boundNode?, hnode]
    | some name =>
      by_cases hname : name = "" <;> simp [PodSpecManifest.boundNode?, hnode, hname, bne]

/-- **The active pods are those that have not ended.** -/
theorem admits_active (manifest : PodManifest) :
    PodSelection.active.admits manifest = !manifest.podPhase.isTerminal := by
  rw [isTerminal_podPhase]
  simp [PodSelection.admits, PodSelection.requirements, FieldRequirement.isMetBy,
    PodField.valueIn, bne]

/-- **The pending pods are those that are not bound and have not ended.** -/
theorem admits_pending (manifest : PodManifest) :
    PodSelection.pending.admits manifest =
      (manifest.boundNode?.isNone && !manifest.podPhase.isTerminal) := by
  rw [isTerminal_podPhase, isNone_boundNode?]
  simp [PodSelection.admits, PodSelection.requirements, FieldRequirement.isMetBy,
    PodField.valueIn, bne]

/-- The pod that a manifest stands for has its phase and is bound to its node. -/
theorem phase_nodeName_of_toPod? (h : manifest.toPod? = some pod) :
    pod.phase = manifest.podPhase ∧ pod.nodeName = manifest.boundNode? := by
  obtain ⟨name, -, rfl⟩ := Option.map_eq_some_iff.1 h
  rw [boundNode?]
  cases manifest.spec with
  | none => exact ⟨rfl, rfl⟩
  | some spec => exact ⟨rfl, rfl⟩

/-- **The scheduler could not place a pod**, as its manifest shows. -/
structure Stranded (manifest : PodManifest) (pod : Pod) : Prop where
  /-- The manifest stands for the pod. -/
  converted : manifest.toPod? = some pod
  /-- The pod is bound to no node. -/
  unbound : pod.nodeName = none
  /-- The pod has not ended. -/
  live : pod.phase.isTerminal = false
  /-- The manifest says that the scheduler could not place the pod. -/
  condition : ∃ c ∈ manifest.conditions,
    c.kind = "PodScheduled" ∧ c.status = "False" ∧ c.reason = some "Unschedulable"

/-- A manifest that can be read shows that the pod could not be placed exactly if it counts as
unschedulable. -/
theorem isUnschedulable_iff_stranded (h : manifest.toPod? = some pod) :
    manifest.isUnschedulable ↔ manifest.Stranded pod := by
  obtain ⟨hphase, hnode⟩ := phase_nodeName_of_toPod? h
  simp only [isUnschedulable, Bool.and_eq_true, Bool.not_eq_true', Option.isNone_iff_eq_none,
    List.any_eq_true, beq_iff_eq, and_assoc]
  constructor
  · rintro ⟨hunbound, hlive, hcondition⟩
    exact ⟨h, hnode.trans hunbound, by rw [hphase, hlive], hcondition⟩
  · rintro ⟨-, hunbound, hlive, hcondition⟩
    exact ⟨hnode.symm.trans hunbound, by rw [← hphase, hlive], hcondition⟩

end PodManifest

namespace ClusterApi

/-! ## Filtered listings -/

variable {manifests : List PodManifest}

/-- **Pods that a server leaves out of the active ones are no part of a snapshot.** -/
theorem live_pods_filter_admits (manifests : List PodManifest) :
    Snapshot.live (pods (manifests.filter PodSelection.active.admits)) =
      Snapshot.live (pods manifests) := by
  rw [Snapshot.live, Snapshot.live, pods, pods, List.filterMap_filter, List.filter_filterMap,
    List.filter_filterMap]
  refine List.filterMap_congr fun manifest _ => ?_
  rw [PodManifest.admits_active]
  cases hpod : manifest.toPod? with
  | none => simp
  | some pod =>
    -- the pod has ended exactly if the server leaves it out
    have hphase := (PodManifest.phase_nodeName_of_toPod? hpod).1
    cases hended : manifest.podPhase.isTerminal <;> simp [Option.filter, hphase, hended]

/-- **Pods that a server leaves out of the pending ones do not count as unschedulable.** -/
theorem unschedulablePods_filter_admits (manifests : List PodManifest) :
    unschedulablePods (manifests.filter PodSelection.pending.admits) =
      unschedulablePods manifests := by
  rw [unschedulablePods, unschedulablePods, List.filter_filter]
  congr 1
  refine List.filter_congr fun manifest _ => ?_
  rw [PodManifest.admits_pending, PodManifest.isUnschedulable]
  cases manifest.boundNode?.isNone <;> cases manifest.podPhase.isTerminal <;> simp

/-- What is read of a list is what each member that can be read stands for. -/
theorem forall₂_filterMap {α β : Type} (read : α → Option β) (items : List α) :
    List.Forall₂ (fun a b => read a = some b) (items.filter fun a => (read a).isSome)
      (items.filterMap read) := by
  induction items with
  | nil => exact .nil
  | cons a items ih =>
    cases hread : read a with
    | none =>
      rw [List.filter_cons_of_neg (by simp [hread]), List.filterMap_cons_none hread]
      exact ih
    | some b =>
      rw [List.filter_cons_of_pos (by simp [hread]), List.filterMap_cons_some hread]
      exact .cons hread ih

/-- **The unschedulable pods are those that the scheduler could not place**, in the order in which
they are listed. -/
theorem exists_stranded (manifests : List PodManifest) :
    ∃ chosen, chosen.Sublist manifests ∧
      List.Forall₂ PodManifest.Stranded chosen (unschedulablePods manifests) ∧
      ∀ manifest ∈ manifests, ∀ pod, manifest.Stranded pod → manifest ∈ chosen := by
  refine ⟨(manifests.filter (·.isUnschedulable)).filter (·.toPod?.isSome),
    List.filter_sublist.trans List.filter_sublist, ?_, fun manifest hmanifest pod hpod => ?_⟩
  · have hunschedulable :
        ∀ manifest ∈ (manifests.filter (·.isUnschedulable)).filter (·.toPod?.isSome),
        manifest.isUnschedulable := fun manifest hmanifest =>
      (List.mem_filter.1 (List.mem_of_mem_filter hmanifest)).2
    have hread :=
      (List.forall₂_and_left _ _).2 ⟨hunschedulable, forall₂_filterMap PodManifest.toPod? _⟩
    exact hread.imp fun manifest pod h => (PodManifest.isUnschedulable_iff_stranded h.2).1 h.1
  · have hunschedulable := (PodManifest.isUnschedulable_iff_stranded hpod.converted).2 hpod
    exact List.mem_filter.2 ⟨List.mem_filter.2 ⟨hmanifest, hunschedulable⟩, by
      rw [hpod.converted]; rfl⟩

/-! ## Servers that filter -/

section Servers

variable (api : ApiServer σ)

/-- A server that applies selectors answers a listing of pods with those that the selection
admits. -/
theorem answer_ask_selective (selection : PodSelection) (s : σ) :
    (api.selective.ask (.listPods selection) s).answer =
      (api.ask (.listPods selection) s).answer.map (List.filter selection.admits) := by
  rw [ApiServer.ask, ApiServer.ask]
  cases (ApiRequest.listPods selection).uri with
  | ok uri => rfl
  | error fault => rfl

/-- The pods that are listed are read from the answer of the server. -/
theorem answer_listPods (s : Session σ) :
    (listPods api s).answer =
      match (api.ask (.listPods .active) s.server).answer with
      | .ok items => .ok (pods items)
      | .error e => .error (.listingFailed .pods e.message) := by
  simp only [listPods, listing, Exchange.map, Session.send]
  cases (api.ask (.listPods .active) s.server).answer with
  | ok items => rfl
  | error e => rfl

/-- So are the unschedulable ones. -/
theorem answer_listUnschedulable (s : Session σ) :
    (listUnschedulable api s).answer =
      match (api.ask (.listPods .pending) s.server).answer with
      | .ok items => .ok (unschedulablePods items)
      | .error e => .error (.listingFailed .unschedulablePods e.message) := by
  simp only [listUnschedulable, listing, Exchange.map, Session.send]
  cases (api.ask (.listPods .pending) s.server).answer with
  | ok items => rfl
  | error e => rfl

/-- **Listings do not rely on the server to filter.** Whether it applies field selectors or returns
all pods, the snapshot is the same, for any nodes and role labels, and so are the unschedulable
pods. Those are the pods on the server that are bound to no node, have not ended, and are said to be
unschedulable, in the order in which the server has them. -/
theorem listings_selective (s : Session σ) (labels : RoleLabels) (nodes : List NodeManifest) :
    (listPods api.selective s).answer.map (Snapshot.ofListing labels (readyNodes nodes)) =
        (listPods api s).answer.map (Snapshot.ofListing labels (readyNodes nodes)) ∧
      (listUnschedulable api.selective s).answer = (listUnschedulable api s).answer ∧
      ∀ items : List PodManifest, (api.ask (.listPods .pending) s.server).answer = .ok items →
        ∃ chosen stranded, (listUnschedulable api s).answer = .ok stranded ∧ chosen.Sublist items ∧
          List.Forall₂ PodManifest.Stranded chosen stranded ∧
          ∀ manifest ∈ items, ∀ pod, manifest.Stranded pod → manifest ∈ chosen := by
  refine ⟨?_, ?_, fun items hitems => ?_⟩
  · rw [answer_listPods, answer_listPods, answer_ask_selective]
    cases (api.ask (.listPods .active) s.server).answer with
    | error e => rfl
    | ok items =>
      exact congrArg Except.ok (Snapshot.ofListing_congr (live_pods_filter_admits items))
  · rw [answer_listUnschedulable, answer_listUnschedulable, answer_ask_selective]
    cases (api.ask (.listPods .pending) s.server).answer with
    | error e => rfl
    | ok items => exact congrArg Except.ok (unschedulablePods_filter_admits items)
  · obtain ⟨chosen, hsublist, hstranded, hcomplete⟩ := exists_stranded items
    refine ⟨chosen, unschedulablePods items, ?_, hsublist, hstranded, hcomplete⟩
    rw [answer_listUnschedulable, hitems]

end Servers

/-- A pod that the scheduler could not place. -/
def waiting : PodManifest where
  metadata := { name := some "waiting" }
  phase := some "Pending"
  conditions := [⟨"PodScheduled", "False", some "Unschedulable"⟩]

/-- A pod that ended before it was placed. -/
def ended : PodManifest :=
  { waiting with metadata := { name := some "ended" }, phase := some "Failed" }

/-- A server with both pods, whichever are asked for. -/
def indiscriminate : ScriptedServer := { pods := [ended, waiting], pending := [ended, waiting] }

/-- That server returns the pod that ended, the selector leaves it out, and either way one pod is
unschedulable. -/
theorem listings_selective_ended :
    (ScriptedServer.api.ask (.listPods .pending) indiscriminate).answer = .ok [ended, waiting] ∧
      (ScriptedServer.api.selective.ask (.listPods .pending) indiscriminate).answer =
        .ok [waiting] ∧
      (listUnschedulable ScriptedServer.api.selective { server := indiscriminate }).answer =
        (listUnschedulable ScriptedServer.api { server := indiscriminate }).answer ∧
      ∃ chosen stranded,
        (listUnschedulable ScriptedServer.api { server := indiscriminate }).answer = .ok stranded ∧
        chosen.Sublist [ended, waiting] ∧ List.Forall₂ PodManifest.Stranded chosen stranded ∧
        ∀ manifest ∈ [ended, waiting], ∀ pod, manifest.Stranded pod → manifest ∈ chosen := by
  have hall : (ScriptedServer.api.ask (.listPods .pending) indiscriminate).answer =
      .ok [ended, waiting] := by
    with_unfolding_all rfl
  have hselected : (ScriptedServer.api.selective.ask (.listPods .pending) indiscriminate).answer =
      .ok [waiting] := by
    rw [answer_ask_selective, hall]
    with_unfolding_all rfl
  obtain ⟨-, hsame, hstranded⟩ :=
    listings_selective ScriptedServer.api { server := indiscriminate } ⟨"worker", "spot"⟩ []
  exact ⟨hall, hselected, hsame, hstranded _ hall⟩

end ClusterApi

end SpotRebalance
