import TaskWatch.Client.Basic
import TaskWatch.Proofs.Steps

/-!
# What a checked registry is good for

Checking a registry asks of each address that it starts with a scheme, and nothing of what follows
(`validateAddress_eq_ok_iff`). An endpoint needs more: something that is not blank has to follow the
scheme, and blanks at its end are not part of it (`Endpoint.ofAddress_scheme`). So an entry that was
checked has a client, of the kind that its scheme says, unless its address is a scheme alone
(`Registry.validate_eq_ok_iff_clients`); such an entry is checked and has no client
(`Registry.bare_schemes_validated`).
-/

namespace TaskWatch

namespace Text

/-- The text without the blanks at its end. -/
def trimEnd (s : String) : String :=
  String.ofList (s.toList.reverse.dropWhile isBlankChar).reverse

theorem trimEnd_eq_empty_iff (s : String) : trimEnd s = "" ↔ isBlank s = true := by
  rw [trimEnd, String.ofList_eq_empty_iff, List.reverse_eq_nil_iff, dropWhile_eq_nil_iff_all,
    List.all_reverse, isBlank]

/-- Behind a text that neither starts nor ends with a blank, only the end is left to trim. -/
theorem trim_append {s : String} {c d : Char} {cs init : List Char} (hfirst : s.toList = c :: cs)
    (hc : isBlankChar c = false) (hlast : s.toList = init ++ [d]) (hd : isBlankChar d = false)
    (t : String) : trim (s ++ t) = s ++ trimEnd t := by
  apply String.toList_injective
  have hstart : (s.toList ++ t.toList).dropWhile isBlankChar = s.toList ++ t.toList := by
    rw [hfirst, List.cons_append, List.dropWhile_cons_of_neg (Bool.eq_false_iff.1 hc)]
  have hend : s.toList.reverse.dropWhile isBlankChar = s.toList.reverse := by
    rw [hlast, List.reverse_append, List.reverse_singleton, List.singleton_append,
      List.dropWhile_cons_of_neg (Bool.eq_false_iff.1 hd)]
  rw [toList_trim, String.toList_append, String.toList_append, trimEnd, String.toList_ofList,
    trimChars, hstart, List.reverse_append, List.dropWhile_append, hend]
  split
  · next hblank =>
    rw [List.isEmpty_iff.1 hblank, List.reverse_reverse, List.reverse_nil, List.append_nil]
  · rw [List.reverse_append, List.reverse_reverse]

end Text

/-! ## Schemes -/

/-- The schemes that an address may start with. -/
inductive Scheme where
  | unix
  | tcp
  deriving DecidableEq, Repr

namespace Scheme

def text : Scheme → String
  | .unix => unixScheme
  | .tcp => tcpScheme

/-- The endpoint of a scheme and what follows it. -/
def endpoint : Scheme → String → Endpoint
  | .unix => .unix
  | .tcp => .tcp

theorem trim_text_append (scheme : Scheme) (rest : String) :
    Text.trim (scheme.text ++ rest) = scheme.text ++ Text.trimEnd rest := by
  cases scheme with
  | unix =>
    have hlast : unixScheme.toList = "unix:/".toList ++ ['/'] := rfl
    exact Text.trim_append rfl (by decide) hlast (by decide) rest
  | tcp =>
    have hlast : tcpScheme.toList = "tcp:/".toList ++ ['/'] := rfl
    exact Text.trim_append rfl (by decide) hlast (by decide) rest

theorem text_append_ne_empty (scheme : Scheme) (rest : String) : scheme.text ++ rest ≠ "" := by
  rw [Ne, String.append_eq_empty_iff]
  cases scheme <;> exact fun h => absurd h.1 (by decide)

/-- An address has one scheme. -/
theorem tcp_append_ne_unix_append (rest rest' : String) :
    tcpScheme ++ rest ≠ unixScheme ++ rest' := by
  intro h
  have hchars := congrArg String.toList h
  rw [String.toList_append, String.toList_append] at hchars
  exact absurd (List.cons.inj hchars).1 (by decide)

end Scheme

theorem after?_eq_some_iff {start cs rest : List Char} :
    after? start cs = some rest ↔ cs = start ++ rest := by
  induction start generalizing cs with
  | nil => rw [after?, Option.some.injEq, List.nil_append]
  | cons s start ih =>
    cases cs with
    | nil => exact iff_of_false nofun nofun
    | cons c cs =>
      rw [after?, List.cons_append, List.cons.injEq]
      by_cases hs : s = c
      · rw [if_pos hs, ih, and_iff_right hs.symm]
      · rw [if_neg hs]
        exact iff_of_false nofun fun h => hs h.1.symm

theorem afterScheme?_eq_some_iff {scheme address rest : String} :
    afterScheme? scheme address = some rest ↔ address = scheme ++ rest := by
  rw [afterScheme?, Option.map_eq_some_iff]
  constructor
  · rintro ⟨cs, hcs, rfl⟩
    apply String.toList_injective
    rw [after?_eq_some_iff.1 hcs, String.toList_append, String.toList_ofList]
  · rintro rfl
    exact ⟨rest.toList, after?_eq_some_iff.2 String.toList_append, String.ofList_toList⟩

theorem isSome_afterScheme?_iff {scheme address : String} :
    (afterScheme? scheme address).isSome = true ↔ ∃ rest, address = scheme ++ rest := by
  simp only [Option.isSome_iff_exists, afterScheme?_eq_some_iff]

/-! ## Addresses -/

/-- An address is fit for a registry if it starts with a scheme. -/
theorem validateAddress_eq_ok_iff (address : String) :
    validateAddress address = .ok () ↔ ∃ scheme rest, address = Scheme.text scheme ++ rest := by
  have hscheme : ((afterScheme? unixScheme address).isSome ||
      (afterScheme? tcpScheme address).isSome) = true ↔
        ∃ scheme rest, address = Scheme.text scheme ++ rest := by
    rw [Bool.or_eq_true, isSome_afterScheme?_iff, isSome_afterScheme?_iff]
    constructor
    · rintro (h | h)
      · exact ⟨.unix, h⟩
      · exact ⟨.tcp, h⟩
    · rintro ⟨scheme | scheme, h⟩
      · exact .inl h
      · exact .inr h
  unfold validateAddress
  split
  · next hblank =>
    refine iff_of_false nofun ?_
    rintro ⟨scheme, rest, rfl⟩
    rw [← Text.trim_eq_empty_iff, Scheme.trim_text_append] at hblank
    exact scheme.text_append_ne_empty _ hblank
  · rw [← hscheme]
    split
    · next h => exact iff_of_true rfl h
    · next h => exact iff_of_false nofun h

theorem afterScheme?_unix_tcp (rest : String) :
    afterScheme? unixScheme (tcpScheme ++ rest) = none := by
  cases hseen : afterScheme? unixScheme (tcpScheme ++ rest) with
  | none => rfl
  | some rest' =>
    exact absurd (afterScheme?_eq_some_iff.1 hseen) (Scheme.tcp_append_ne_unix_append rest rest')

/-- The endpoint of an address that starts with a scheme. -/
theorem Endpoint.ofAddress_scheme (scheme : Scheme) (rest : String) :
    Endpoint.ofAddress (scheme.text ++ rest) =
      if Text.isBlank rest then .error (.invalidAddress (.incomplete scheme.text))
      else .ok (scheme.endpoint (Text.trimEnd rest)) := by
  have hself : ∀ start s, afterScheme? start (start ++ s) = some s :=
    fun _ _ => afterScheme?_eq_some_iff.2 rfl
  rw [Endpoint.ofAddress, scheme.trim_text_append, if_neg (scheme.text_append_ne_empty _)]
  by_cases hblank : Text.isBlank rest = true
  · rw [if_pos hblank, (Text.trimEnd_eq_empty_iff rest).2 hblank]
    cases scheme <;> rfl
  · have hne : Text.trimEnd rest ≠ "" := fun h => hblank ((Text.trimEnd_eq_empty_iff rest).1 h)
    rw [if_neg hblank]
    cases scheme with
    | unix =>
      rw [Scheme.text, hself]
      exact if_neg hne
    | tcp =>
      rw [Scheme.text, afterScheme?_unix_tcp, hself]
      exact if_neg hne

/-- The client of an entry whose address starts with a scheme. -/
theorem Client.ofEntry_scheme {entry : DaemonEntry} {scheme : Scheme} {rest : String}
    (h : entry.address = scheme.text ++ rest) :
    Client.ofEntry entry =
      if Text.isBlank rest then .error (.invalidAddress (.incomplete scheme.text))
      else .ok { name := entry.name, endpoint := scheme.endpoint (Text.trimEnd rest),
                 authToken := entry.authToken } := by
  rw [Client.ofEntry, h, Endpoint.ofAddress_scheme]
  split <;> rfl

/-! ## Registries -/

namespace Registry

theorem validate_eq_ok_iff (registry : Registry) :
    registry.validate = .ok () ↔
      ∀ entry ∈ registry.daemons, validateAddress entry.address = .ok () := by
  unfold validate
  induction registry.daemons with
  | nil => exact iff_of_true rfl nofun
  | cons entry daemons ih =>
    rw [List.forM, bind_eq_ok_iff, List.forall_mem_cons, ← ih]
    cases validateAddress entry.address with
    | ok u => simp
    | error fault => simp

/-- A registry is accepted if each entry has an address that starts with a scheme, and then the
entry has a client of this kind, unless nothing but blanks follows the scheme. -/
theorem validate_eq_ok_iff_clients (registry : Registry) :
    registry.validate = .ok () ↔
      ∀ entry ∈ registry.daemons, ∃ scheme rest, entry.address = Scheme.text scheme ++ rest ∧
        Client.ofEntry entry =
          if Text.isBlank rest then .error (.invalidAddress (.incomplete scheme.text))
          else .ok { name := entry.name, endpoint := scheme.endpoint (Text.trimEnd rest),
                     authToken := entry.authToken } := by
  rw [validate_eq_ok_iff]
  refine forall₂_congr fun entry _ => ?_
  rw [validateAddress_eq_ok_iff]
  constructor
  · rintro ⟨scheme, rest, haddress⟩
    exact ⟨scheme, rest, haddress, Client.ofEntry_scheme haddress⟩
  · rintro ⟨scheme, rest, haddress, -⟩
    exact ⟨scheme, rest, haddress⟩

/-- Two daemons whose addresses are schemes alone, one of them up to the blanks behind it. -/
def bareSchemes : Registry :=
  ⟨[{ name := "a", address := "tcp://" }, { name := "b", address := "unix:// \t" }]⟩

/-- Schemes alone are accepted and name no endpoints. -/
theorem bare_schemes_validated :
    bareSchemes.validate = .ok () ∧
      bareSchemes.daemons.map Client.ofEntry =
        [.error (.invalidAddress (.incomplete "tcp://")),
          .error (.invalidAddress (.incomplete "unix://"))] :=
  ⟨rfl, rfl⟩

end Registry

end TaskWatch
