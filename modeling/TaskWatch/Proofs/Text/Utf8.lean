import TaskWatch.Text.Utf8

/-!
# Texts as octets and back

What `encode` writes is read as the text it was (`decodeLossy_encode`). The first octet of a character
says how many follow and what the second may be (`start_two`, `start_three`, `start_four`), and each
of them adds its six bits (`decodeFrom_tail`, `decodeFrom_last`).
-/

namespace TaskWatch.Utf8

theorem toNat_ofNat {n : Nat} (h : n < 256) : (UInt8.ofNat n).toNat = n := by
  simp only [UInt8.toNat_ofNat']
  omega

/-! ## One octet -/

theorem start_two {n : Nat} (hlow : 0x80 ≤ n) (hhigh : n < 0x800) :
    start (UInt8.ofNat (0xC0 + n / 64)) = .several ⟨1, 0x80, 0xBF, n / 64⟩ := by
  have hoctet : (UInt8.ofNat (0xC0 + n / 64)).toNat = 0xC0 + n / 64 := toNat_ofNat (by omega)
  have hcode : 0xC0 + n / 64 - 0xC0 = n / 64 := by omega
  simp only [start, hoctet, hcode]
  rw [if_neg (by omega), if_neg (by omega), if_pos (by omega)]

/-- The second of three octets keeps out overlong forms and surrogates. -/
theorem start_three {n : Nat} (hlow : 0x800 ≤ n) (hhigh : n < 0x10000)
    (hvalid : n < 0xD800 ∨ 0xDFFF < n) :
    ∃ low high, start (UInt8.ofNat (0xE0 + n / 4096)) = .several ⟨2, low, high, n / 4096⟩ ∧
      low ≤ 0x80 + n / 64 % 64 ∧ 0x80 + n / 64 % 64 ≤ high := by
  have hoctet : (UInt8.ofNat (0xE0 + n / 4096)).toNat = 0xE0 + n / 4096 := toNat_ofNat (by omega)
  simp only [start, hoctet]
  rw [if_neg (by omega), if_neg (by omega), if_neg (by omega)]
  by_cases hzero : n / 4096 = 0
  · rw [hzero, if_pos (by omega)]
    exact ⟨0xA0, 0xBF, rfl, by omega, by omega⟩
  by_cases hgap : n / 4096 = 0xD
  · rw [hgap, if_neg (by omega), if_pos (by omega)]
    exact ⟨0x80, 0x9F, rfl, by omega, by omega⟩
  have hcode : 0xE0 + n / 4096 - 0xE0 = n / 4096 := by omega
  rw [if_neg (by omega), if_neg (by omega), if_pos (by omega), hcode]
  exact ⟨0x80, 0xBF, rfl, by omega, by omega⟩

/-- The second of four octets keeps out overlong forms and numbers past the last character. -/
theorem start_four {n : Nat} (hlow : 0x10000 ≤ n) (hhigh : n < 0x110000) :
    ∃ low high, start (UInt8.ofNat (0xF0 + n / 262144)) = .several ⟨3, low, high, n / 262144⟩ ∧
      low ≤ 0x80 + n / 4096 % 64 ∧ 0x80 + n / 4096 % 64 ≤ high := by
  have hoctet : (UInt8.ofNat (0xF0 + n / 262144)).toNat = 0xF0 + n / 262144 :=
    toNat_ofNat (by omega)
  simp only [start, hoctet]
  rw [if_neg (by omega), if_neg (by omega), if_neg (by omega), if_neg (by omega),
    if_neg (by omega), if_neg (by omega)]
  by_cases hzero : n / 262144 = 0
  · rw [hzero, if_pos (by omega)]
    exact ⟨0x90, 0xBF, rfl, by omega, by omega⟩
  by_cases hlast : n / 262144 = 4
  · rw [hlast, if_neg (by omega), if_neg (by omega), if_pos (by omega)]
    exact ⟨0x80, 0x8F, rfl, by omega, by omega⟩
  have hcode : 0xF0 + n / 262144 - 0xF0 = n / 262144 := by omega
  rw [if_neg (by omega), if_pos (by omega), hcode]
  exact ⟨0x80, 0xBF, rfl, by omega, by omega⟩

theorem decodeFrom_start {octet : UInt8} {p : Pending} (h : start octet = .several p)
    (rest : List UInt8) : decodeFrom none (octet :: rest) = decodeFrom (some p) rest := by
  rw [decodeFrom, step, begin, h]
  rfl

/-- An octet with six more bits, when more are owed. -/
theorem decodeFrom_tail {owed low high code bits : Nat} (howed : 1 < owed) (hbits : bits < 64)
    (hlow : low ≤ 0x80 + bits) (hhigh : 0x80 + bits ≤ high) (rest : List UInt8) :
    decodeFrom (some ⟨owed, low, high, code⟩) (UInt8.ofNat (0x80 + bits) :: rest) =
      decodeFrom (some ⟨owed - 1, 0x80, 0xBF, 64 * code + bits⟩) rest := by
  have hoctet : (UInt8.ofNat (0x80 + bits)).toNat = 0x80 + bits := toNat_ofNat (by omega)
  have hcode : 0x80 + bits - 0x80 = bits := by omega
  rw [decodeFrom, step]
  simp only [hoctet, hcode]
  rw [if_pos ⟨hlow, hhigh⟩, if_neg (by omega)]
  rfl

/-- The last octet of a character. -/
theorem decodeFrom_last {low high code bits : Nat} (hbits : bits < 64)
    (hlow : low ≤ 0x80 + bits) (hhigh : 0x80 + bits ≤ high) (rest : List UInt8) :
    decodeFrom (some ⟨1, low, high, code⟩) (UInt8.ofNat (0x80 + bits) :: rest) =
      Char.ofNat (64 * code + bits) :: decodeFrom none rest := by
  have hoctet : (UInt8.ofNat (0x80 + bits)).toNat = 0x80 + bits := toNat_ofNat (by omega)
  have hcode : 0x80 + bits - 0x80 = bits := by omega
  rw [decodeFrom, step]
  simp only [hoctet, hcode]
  rw [if_pos ⟨hlow, hhigh⟩, if_pos (by omega)]
  rfl

/-! ## One character -/

theorem valid_toNat (c : Char) : c.toNat < 0xD800 ∨ 0xDFFF < c.toNat ∧ c.toNat < 0x110000 :=
  c.valid

/-- A character is read as it was written, whatever follows. -/
theorem decodeFrom_encodeChar (c : Char) (rest : List UInt8) :
    decodeFrom none (encodeChar c ++ rest) = c :: decodeFrom none rest := by
  have hvalid := valid_toNat c
  have hchar : Char.ofNat c.toNat = c := Char.ofNat_toNat c
  unfold encodeChar
  generalize c.toNat = n at hvalid hchar
  dsimp only
  split
  · next hone =>
    have hoctet : (UInt8.ofNat n).toNat = n := toNat_ofNat (by omega)
    have hstart : start (UInt8.ofNat n) = .single c := by
      simp only [start, hoctet, hchar]
      rw [if_pos hone]
    rw [List.singleton_append, decodeFrom, step, begin, hstart]
    rfl
  split
  · next hone htwo =>
    have hcode : 64 * (n / 64) + n % 64 = n := by omega
    have hstart := start_two (n := n) (by omega) htwo
    rw [List.cons_append, decodeFrom_start hstart, List.singleton_append,
      decodeFrom_last (by omega) (by omega) (by omega), hcode, hchar]
  split
  · next hone htwo hthree =>
    have hcode : 64 * (64 * (n / 4096) + n / 64 % 64) + n % 64 = n := by omega
    obtain ⟨low, high, hstart, hlow, hhigh⟩ :=
      start_three (n := n) (by omega) hthree (hvalid.imp_right And.left)
    rw [List.cons_append, decodeFrom_start hstart, List.cons_append,
      decodeFrom_tail (by omega) (by omega) hlow hhigh, List.singleton_append,
      decodeFrom_last (by omega) (by omega) (by omega), hcode, hchar]
  · next hone htwo hthree =>
    have hcode :
        64 * (64 * (64 * (n / 262144) + n / 4096 % 64) + n / 64 % 64) + n % 64 = n := by omega
    obtain ⟨low, high, hstart, hlow, hhigh⟩ := start_four (n := n) (by omega) (by omega)
    rw [List.cons_append, decodeFrom_start hstart, List.cons_append,
      decodeFrom_tail (by omega) (by omega) hlow hhigh, List.cons_append,
      decodeFrom_tail (by omega) (by omega) (by omega) (by omega), List.singleton_append,
      decodeFrom_last (by omega) (by omega) (by omega), hcode, hchar]

/-! ## Texts -/

/-- What is written is read as it was. -/
theorem decodeLossy_encode (s : String) : decodeLossy (encode s) = s := by
  have hchars (cs : List Char) : decodeFrom none (cs.flatMap encodeChar) = cs := by
    induction cs with
    | nil => rfl
    | cons c cs ih => rw [List.flatMap_cons, decodeFrom_encodeChar, ih]
  rw [decodeLossy, encode, hchars, String.ofList_toList]

/-- The octets of a character are no less than the character, or no characters of their own. -/
theorem le_of_mem_encodeChar {least : Nat} (hleast : least ≤ 0x80) {c : Char}
    (hc : least ≤ c.toNat) {octet : UInt8} (h : octet ∈ encodeChar c) : least ≤ octet.toNat := by
  have hvalid := valid_toNat c
  unfold encodeChar at h
  generalize c.toNat = n at hc hvalid h
  have hlarge {m : Nat} (hlow : 0x80 ≤ m) (hhigh : m < 256) (hm : octet = UInt8.ofNat m) :
      least ≤ octet.toNat := by
    rw [hm, toNat_ofNat hhigh]
    omega
  dsimp only at h
  split at h
  · next hone =>
    rw [List.mem_singleton.1 h, toNat_ofNat (by omega)]
    exact hc
  split at h
  · simp only [List.mem_cons, List.not_mem_nil, or_false] at h
    rcases h with h | h <;> exact hlarge (by omega) (by omega) h
  split at h
  · simp only [List.mem_cons, List.not_mem_nil, or_false] at h
    rcases h with h | h | h <;> exact hlarge (by omega) (by omega) h
  · simp only [List.mem_cons, List.not_mem_nil, or_false] at h
    rcases h with h | h | h | h <;> exact hlarge (by omega) (by omega) h

/-- The octets of a text whose characters are past the controls are past them too. -/
theorem le_of_mem_encode {least : Nat} (hleast : least ≤ 0x80) {s : String}
    (hs : ∀ c ∈ s.toList, least ≤ c.toNat) {octet : UInt8} (h : octet ∈ encode s) :
    least ≤ octet.toNat := by
  obtain ⟨c, hc, hoctet⟩ := List.mem_flatMap.1 h
  exact le_of_mem_encodeChar hleast (hs c hc) hoctet

end TaskWatch.Utf8
