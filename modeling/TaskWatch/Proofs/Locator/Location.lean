import TaskWatch.Locator.Basic
import TaskWatch.Proofs.Locator.Window

/-!
# Where an agent is found

The daemons of a registry, each with what it answers when it is asked for its processes, are
`Answering`s. Those that have an agent are its *owners*: they are enabled, have a usable address, and
answer with a process of this name. Where the agent is found depends on its owners and their order in
the registry alone, and every daemon that can be asked is asked once (`Answering.locate_exact`).
-/

namespace TaskWatch

/-- A daemon of a registry, and what it answers when it is asked for its processes. -/
structure Answering where
  entry : DaemonEntry
  reply : Except ClientError (List Wire.ProcessInfo)

namespace Answering

/-- The client that asks a daemon, if it is enabled and has a usable address. -/
def client? (d : Answering) : Option Client :=
  if d.entry.enabled then (Client.ofEntry d.entry).toOption else none

/-- Whether a daemon can be asked and answers with a process of this name. -/
def has (agent : String) (d : Answering) : Bool :=
  d.client?.isSome && Locator.reports agent d.reply

/-- What finds agents on the daemons. -/
def locator (daemons : List Answering) (options : ClientOptions) (concurrency : Nat) : Locator :=
  ⟨⟨daemons.map (·.entry)⟩, options, concurrency⟩

/-- What the daemon at a place answers. -/
def replyAt (daemons : List Answering) (place : Nat) :
    Except ClientError (List Wire.ProcessInfo) :=
  match daemons[place]? with
  | some d => d.reply
  | none => .error .noResponse

/-- Asks the daemons, and keeps a record of who was asked. -/
def ask (daemons : List Answering) : Inquiry (List (Nat × Client)) := fun place client asked =>
  (replyAt daemons place, asked ++ [(place, client)])

/-- Who can be asked: a client for each daemon that is enabled and has a usable address. -/
def askable (daemons : List Answering) (options : ClientOptions) : List (Nat × Client) :=
  daemons.zipIdx.filterMap fun (d, place) =>
    d.client?.map fun client => (place, client.withOptions options)

/-- What some owners of an agent tell about where it is. -/
def verdict (agent : String) : List Answering → Except LocateError String
  | [] => .error (.notFound agent)
  | [owner] => .ok owner.entry.name
  | owners => .error (.ambiguous agent (owners.map (·.entry.name)))

variable (daemons : List Answering) (options : ClientOptions) (concurrency : Nat) (agent : String)

/-! ## Probes -/

/-- What a probe finds, whoever else was asked. -/
def found (job : DaemonEntry × Nat) : Option String :=
  match Client.ofEntry job.1 with
  | .error _ => none
  | .ok _ => if Locator.reports agent (replyAt daemons job.2) then some job.1.name else none

/-- Whom a probe asks. -/
def asked (job : DaemonEntry × Nat) : Option (Nat × Client) :=
  (Client.ofEntry job.1).toOption.map fun client => (job.2, client.withOptions options)

theorem probe_eq (job : DaemonEntry × Nat) (log : List (Nat × Client)) :
    (locator daemons options concurrency).probe (ask daemons) agent job log =
      (found daemons agent job, log ++ (asked options job).toList) := by
  unfold Locator.probe found asked
  cases Client.ofEntry job.1 with
  | error e => exact Prod.ext rfl (List.append_nil log).symm
  | ok client => rfl

/-- Probes ask one after the other. -/
theorem foldl_probe (order : List (DaemonEntry × Nat)) (log : List (Nat × Client)) :
    order.foldl (fun log job =>
        ((locator daemons options concurrency).probe (ask daemons) agent job log).2) log =
      log ++ order.filterMap (asked options) := by
  induction order generalizing log with
  | nil => exact (List.append_nil log).symm
  | cons job rest ih =>
    rw [List.foldl_cons, ih, probe_eq, List.append_assoc, List.filterMap_cons]
    cases asked options job <;> rfl

/-! ## Candidates -/

/-- What is done with the candidates is done with the daemons that are enabled. -/
theorem filterMap_candidates {β : Type} (f : DaemonEntry × Nat → Option β) :
    (locator daemons options concurrency).candidates.filterMap f =
      daemons.zipIdx.filterMap fun (d, place) =>
        if d.entry.enabled then f (d.entry, place) else none := by
  rw [Locator.candidates, locator, List.zipIdx_map, List.filterMap_filter, List.filterMap_map]
  rfl

theorem filterMap_asked :
    (locator daemons options concurrency).candidates.filterMap (asked options) =
      askable daemons options := by
  rw [filterMap_candidates, askable]
  refine List.filterMap_congr fun p _ => ?_
  dsimp only [client?, asked]
  split <;> rfl

theorem replyAt_of_mem {p : Answering × Nat} (hp : p ∈ daemons.zipIdx) :
    replyAt daemons p.2 = p.1.reply := by
  rw [replyAt, List.mem_zipIdx_iff_getElem?.1 hp]

/-- A probe of an enabled daemon finds its name if the daemon has the agent. -/
theorem found_of_mem {p : Answering × Nat} (hp : p ∈ daemons.zipIdx) :
    (if p.1.entry.enabled then found daemons agent (p.1.entry, p.2) else none) =
      if has agent p.1 then some p.1.entry.name else none := by
  rw [found, replyAt_of_mem daemons hp, has, client?]
  by_cases henabled : p.1.entry.enabled = true
  · rw [if_pos henabled, if_pos henabled]
    cases Client.ofEntry p.1.entry <;> rfl
  · rw [if_neg henabled, if_neg henabled]
    rfl

/-- The candidates that have the agent are its owners. -/
theorem filterMap_found :
    (locator daemons options concurrency).candidates.filterMap (found daemons agent) =
      (daemons.filter (has agent)).map (·.entry.name) := by
  have howner : (fun d : Answering => if has agent d then some d.entry.name else none) ∘ Prod.fst =
      fun p : Answering × Nat => if has agent p.1 then some p.1.entry.name else none := rfl
  rw [filterMap_candidates, List.filterMap_congr fun p hp => found_of_mem daemons agent hp,
    ← howner, ← List.filterMap_map, List.zipIdx_map_fst]
  rw [← List.filterMap_eq_map, List.filterMap_filter]
  rfl

/-! ## The result -/

/-- The probes find the names of the owners, in order, and ask each daemon that can be asked once. -/
theorem answersOf_probe (schedule : Nat → Nat) :
    let probed := Window.answersOf
      ((locator daemons options concurrency).probe (ask daemons) agent) schedule concurrency
      (locator daemons options concurrency).candidates []
    probed.1.filterMap id = (daemons.filter (has agent)).map (·.entry.name) ∧
      probed.2.Perm (askable daemons options) := by
  have hwork : ∀ job log, ((locator daemons options concurrency).probe (ask daemons) agent job
      log).1 = found daemons agent job :=
    fun job log => congrArg Prod.fst (probe_eq daemons options concurrency agent job log)
  obtain ⟨hanswers, order, horder, hlog⟩ := Window.answersOf_eq hwork schedule concurrency
    (locator daemons options concurrency).candidates []
  intro probed
  constructor
  · rw [hanswers, List.filterMap_map]
    exact filterMap_found daemons options concurrency agent
  · rw [hlog, foldl_probe, List.nil_append, ← filterMap_asked daemons options concurrency]
    exact horder.filterMap _

/-- What the names of the owners tell is what the owners tell. -/
theorem verdict_names (owners : List Answering) :
    Locator.verdict agent (owners.map (·.entry.name)) = verdict agent owners := by
  match owners with
  | [] | [_] | _ :: _ :: _ => rfl

theorem locate_eq (schedule : Nat → Nat) :
    ((locator daemons options concurrency).locate (ask daemons) schedule agent []).1 =
      verdict (Text.trim agent) (daemons.filter (has (Text.trim agent))) := by
  rw [← verdict_names, ← (answersOf_probe daemons options concurrency _ schedule).1]
  rfl

/-- Where an agent is found does not depend on the schedule, the number of daemons that are asked at a
time or the daemons that do not have it: it is what its owners tell, in the order of the registry,
and the same for other daemons among which there are the same owners. Each daemon that is enabled and
has a usable address is asked once, and no other is asked. -/
theorem locate_exact (schedule : Nat → Nat) :
    let located := (locator daemons options concurrency).locate (ask daemons) schedule agent []
    located.1 =
        (match daemons.filter (has (Text.trim agent)) with
        | [] => .error (.notFound (Text.trim agent))
        | [owner] => .ok owner.entry.name
        | owners => .error (.ambiguous (Text.trim agent) (owners.map (·.entry.name)))) ∧
      located.2.Perm (askable daemons options) ∧
      ∀ (others : List Answering) (options' : ClientOptions) (concurrency' : Nat)
        (schedule' : Nat → Nat),
        others.filter (has (Text.trim agent)) = daemons.filter (has (Text.trim agent)) →
        ((locator others options' concurrency').locate (ask others) schedule' agent []).1 =
          located.1 := by
  intro located
  have hlocated := locate_eq daemons options concurrency agent schedule
  refine ⟨hlocated, (answersOf_probe daemons options concurrency _ schedule).2, ?_⟩
  intro others options' concurrency' schedule' howners
  rw [locate_eq others options' concurrency' agent schedule', howners]
  exact hlocated.symm

end Answering

end TaskWatch
