import Mathlib.Data.List.Nodup
import TaskWatch.Proofs.Locator.Location

/-!
# The client for an agent

The owner of an agent is found by asking the daemons, but its client is looked up by its name. Where
daemons share a name the lookup comes to the first of them, whether or not it is the owner
(`Answering.clientFor_first_named`, `Answering.clientFor_homonym`).
-/

namespace TaskWatch.Answering

variable (daemons : List Answering) (options : ClientOptions) (concurrency : Nat) (agent : String)

/-- An owner is enabled and its address names an endpoint. -/
theorem endpoint_of_has {d : Answering} (h : has agent d = true) :
    d.entry.enabled = true ∧ ∃ endpoint, Endpoint.ofAddress d.entry.address = .ok endpoint := by
  have hclient : d.client?.isSome = true := (Bool.and_eq_true_iff.1 h).1
  unfold client? at hclient
  split at hclient
  · next henabled =>
    refine ⟨henabled, ?_⟩
    unfold Client.ofEntry at hclient
    cases haddress : Endpoint.ofAddress d.entry.address with
    | ok endpoint => exact ⟨endpoint, rfl⟩
    | error e =>
      rw [haddress] at hclient
      cases hclient
  · cases hclient

/-- What is given for a daemon that was looked up: its client, unless it is disabled or its address
names no endpoint. -/
def given (d : Answering) : Except LocateError Client :=
  if d.entry.enabled then
    match Endpoint.ofAddress d.entry.address with
    | .ok endpoint => .ok ⟨d.entry.name, endpoint, d.entry.authToken, options⟩
    | .error e => .error (.client e)
  else .error (.client (.daemonDisabled d.entry.name))

theorem given_of_has {d : Answering} (h : has agent d = true) :
    ∃ endpoint, Endpoint.ofAddress d.entry.address = .ok endpoint ∧
      given options d = .ok ⟨d.entry.name, endpoint, d.entry.authToken, options⟩ := by
  obtain ⟨henabled, endpoint, haddress⟩ := endpoint_of_has agent h
  exact ⟨endpoint, haddress, by rw [given, if_pos henabled, haddress]⟩

theorem name_of_find? {daemons : List Answering} {name : String} {first : Answering}
    (h : daemons.find? (·.entry.name == name) = some first) : first.entry.name = name := by
  have hname := List.find?_some h
  exact beq_iff_eq.1 hname

/-- A name is looked up as that of the first daemon that has it. -/
theorem get?_locator (name : String) :
    (locator daemons options concurrency).registry.get? name =
      (daemons.find? (·.entry.name == name)).map (·.entry) := by
  rw [Registry.get?, locator, List.find?_map]
  rfl

theorem ofRegistry_eq {name : String} {first : Answering}
    (h : daemons.find? (·.entry.name == name) = some first) :
    (match Client.ofRegistry (locator daemons options concurrency).registry name with
      | .error e => .error (.client e)
      | .ok client => .ok (client.withOptions options)) = given options first := by
  obtain rfl := name_of_find? h
  rw [Client.ofRegistry, get?_locator, h, Option.map_some, given]
  dsimp only
  cases first.entry.enabled with
  | true =>
    unfold Client.ofEntry
    cases Endpoint.ofAddress first.entry.address <;> rfl
  | false => rfl

/-- Without an explicit daemon the client is looked up by the name that is located. -/
theorem clientFor_of_located {schedule : Nat → Nat} {name : String} {first : Answering}
    (hlocated : ((locator daemons options concurrency).locate (ask daemons) schedule agent []).1 =
      .ok name)
    (h : daemons.find? (·.entry.name == name) = some first) :
    ((locator daemons options concurrency).clientFor (ask daemons) schedule agent none []).1 =
      given options first := by
  rw [← ofRegistry_eq daemons options concurrency h]
  unfold Locator.clientFor
  rw [Option.bind_none]
  dsimp only
  rw [hlocated]
  dsimp only
  cases Client.ofRegistry (locator daemons options concurrency).registry name <;> rfl

theorem clientFor_of_not_located {schedule : Nat → Nat} {e : LocateError}
    (hlocated : ((locator daemons options concurrency).locate (ask daemons) schedule agent []).1 =
      .error e) :
    ((locator daemons options concurrency).clientFor (ask daemons) schedule agent none []).1 =
      .error e := by
  unfold Locator.clientFor
  rw [Option.bind_none]
  dsimp only
  rw [hlocated]

/-- If daemons do not share names, the first daemon with a name is the one that has it. -/
theorem find?_name {daemons : List Answering} (hnames : (daemons.map (·.entry.name)).Nodup)
    {owner first : Answering} (howner : owner ∈ daemons)
    (h : daemons.find? (·.entry.name == owner.entry.name) = some first) : first = owner :=
  List.inj_on_of_nodup_map hnames (List.mem_of_find?_eq_some h) howner (name_of_find? h)

/-- Without an explicit daemon there is a client only if the agent has one owner, and it is that of
the first daemon with the name of the owner: the owner, if no daemon before it has this name. -/
theorem clientFor_first_named (schedule : Nat → Nat) :
    let result := ((locator daemons options concurrency).clientFor (ask daemons) schedule agent none
      []).1
    match daemons.filter (has (Text.trim agent)) with
    | [] => result = .error (.notFound (Text.trim agent))
    | [owner] => ∃ first, daemons.find? (·.entry.name == owner.entry.name) = some first ∧
        result = given options first ∧
        (first = owner → ∃ endpoint, Endpoint.ofAddress owner.entry.address = .ok endpoint ∧
          result = .ok ⟨owner.entry.name, endpoint, owner.entry.authToken, options⟩) ∧
        ((daemons.map (·.entry.name)).Nodup → first = owner)
    | owners => result = .error (.ambiguous (Text.trim agent) (owners.map (·.entry.name))) := by
  have hlocated := locate_eq daemons options concurrency agent schedule
  intro result
  match howners : daemons.filter (has (Text.trim agent)) with
  | [] =>
    rw [howners] at hlocated
    exact clientFor_of_not_located daemons options concurrency agent hlocated
  | [owner] =>
    rw [howners] at hlocated
    obtain ⟨hmem, hhas⟩ := List.mem_filter.1 (howners ▸ List.mem_singleton_self owner)
    have hnamed : (daemons.find? (·.entry.name == owner.entry.name)).isSome := by
      rw [List.find?_isSome]
      exact ⟨owner, hmem, beq_self_eq_true owner.entry.name⟩
    obtain ⟨first, hfirst⟩ := Option.isSome_iff_exists.1 hnamed
    have hresult : result = given options first :=
      clientFor_of_located daemons options concurrency agent hlocated hfirst
    refine ⟨first, hfirst, hresult, ?_, fun hnames => find?_name hnames hmem hfirst⟩
    rintro rfl
    rw [hresult]
    exact given_of_has options _ hhas
  | owner :: second :: rest =>
    rw [howners] at hlocated
    exact clientFor_of_not_located daemons options concurrency agent hlocated

/-! ### Two daemons of one name -/

/-- Two daemons share a name, and only the second has an agent. -/
def homonyms (enabled : Bool) : List Answering := [
  ⟨{ name := "dup", address := "first.sock", enabled := enabled }, .ok [{ name := "other" }]⟩,
  ⟨{ name := "dup", address := "second.sock" }, .ok [{ name := "worker" }]⟩]

/-- The owner is the second daemon, but there is no client if the first is disabled, and the client
of the first, which does not have the agent, if it is enabled. -/
theorem clientFor_homonym :
    (∀ enabled, ((homonyms enabled).map (has "worker")) = [false, true]) ∧
      ((locator (homonyms false) {} 4).clientFor (ask (homonyms false)) (fun _ => 0) "worker" none
        []).1 = .error (.client (.daemonDisabled "dup")) ∧
      ((locator (homonyms true) {} 4).clientFor (ask (homonyms true)) (fun _ => 0) "worker" none
        []).1 = .ok { name := "dup", endpoint := .unix "first.sock" } := by
  decide +kernel

end TaskWatch.Answering
