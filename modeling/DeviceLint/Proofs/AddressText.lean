/-
How addresses are written, and which of them a wildcard lets pass.

An address is read from a text exactly if it is written like that: four octets in decimal, with
no zeros before them.  So nothing is lost between what a configuration says and what is made of
it, and a message that gives an address says it in the words of the configuration.

A wildcard leaves some bits of an address open, anywhere in it.  Two addresses agree outside of it
if each of the other bits is the same in both.
-/
import DeviceLint.Address
import Mathlib.Data.List.Induction

namespace DeviceLint

namespace Text

/-! ### Digits -/

theorem digitsValue_concat (s : List Char) (c : Char) :
    digitsValue (s ++ [c]) = digitsValue s * 10 + (c.toNat - '0'.toNat) := by
  simp [digitsValue]

/-- Digits are what the numbers below ten are written with. -/
theorem exists_digitChar {c : Char} (hc : c.isDigit = true) : ∃ d < 10, c = Nat.digitChar d := by
  have hbounds : 48 ≤ c.toNat ∧ c.toNat ≤ 57 := by
    simpa [Char.isDigit, UInt32.le_iff_toNat_le] using hc
  refine ⟨c.toNat - 48, by omega, ?_⟩
  rw [← Char.toNat_inj, Nat.toNat_digitChar_of_lt_ten (by omega)]
  omega

theorem digitsValue_concat_digitChar (s : List Char) {d : Nat} (hd : d < 10) :
    digitsValue (s ++ [Nat.digitChar d]) = digitsValue s * 10 + d := by
  rw [digitsValue_concat, Nat.toNat_digitChar_of_lt_ten hd]
  show digitsValue s * 10 + (48 + d - 48) = digitsValue s * 10 + d
  omega

theorem digitsValue_toDigits (n : Nat) : digitsValue (Nat.toDigits 10 n) = n := by
  induction n using Nat.strongRecOn with
  | _ n ih =>
      rw [Nat.toDigits_eq_if (by omega)]
      by_cases hn : n < 10
      · rw [if_pos hn, ← List.nil_append [n.digitChar], digitsValue_concat_digitChar [] hn]
        show 0 * 10 + n = n
        omega
      · rw [if_neg hn, digitsValue_concat_digitChar _ (Nat.mod_lt n (by omega)),
          ih (n / 10) (by omega)]
        omega

/-- Digits with no zero before them. -/
def IsPlainNumeral (s : List Char) : Prop := s ≠ [] ∧ (s.head? = some '0' → s = ['0'])

theorem isPlainNumeral_toDigits (n : Nat) : IsPlainNumeral (Nat.toDigits 10 n) := by
  refine ⟨Nat.toDigits_ne_nil, ?_⟩
  induction n using Nat.strongRecOn with
  | _ n ih =>
      rw [Nat.toDigits_eq_if (by omega)]
      by_cases hn : n < 10
      · simp [if_pos hn]
      · rw [if_neg hn, List.head?_append, Option.or_of_isSome (by simp)]
        intro hzero
        -- The digits before the last would be a zero alone, and the number would have but one.
        have hrest := congrArg digitsValue (ih (n / 10) (by omega) hzero)
        rw [digitsValue_toDigits] at hrest
        have hnone : n / 10 = 0 := hrest
        omega

/-- Digits with no zero before them are how their value is written. -/
theorem toDigits_digitsValue {s : List Char} (hdigits : ∀ c ∈ s, c.isDigit = true)
    (hplain : IsPlainNumeral s) : Nat.toDigits 10 (digitsValue s) = s := by
  induction s using List.reverseRecOn with
  | nil => exact absurd rfl hplain.1
  | append_singleton s c ih =>
      obtain ⟨d, hd, rfl⟩ := exists_digitChar (hdigits c (by simp))
      rw [digitsValue_concat_digitChar s hd]
      by_cases hs : s = []
      · subst hs
        show Nat.toDigits 10 (0 * 10 + d) = [d.digitChar]
        rw [Nat.zero_mul, Nat.zero_add, Nat.toDigits_of_lt_base hd]
      · have hhead : (s ++ [d.digitChar]).head? = s.head? := by
          rw [List.head?_append, Option.or_of_isSome (by simpa using hs)]
        have hnonzero : s.head? ≠ some '0' := by
          intro hzero
          have hlength := congrArg List.length (hplain.2 (hhead.trans hzero))
          simp [hs] at hlength
        have hrest := ih (fun c hc => hdigits c (by simp [hc])) ⟨hs, fun h => absurd h hnonzero⟩
        have hpos : digitsValue s ≠ 0 := by
          intro hzero
          rw [hzero] at hrest
          exact hnonzero (hrest ▸ rfl)
        rw [Nat.toDigits_eq_if (by omega), if_neg (by omega),
          show (digitsValue s * 10 + d) / 10 = digitsValue s by omega,
          show (digitsValue s * 10 + d) % 10 = d by omega, hrest]

theorem digits?_eq_some_iff {s : List Char} {n : Nat} :
    digits? s = some n ↔ s ≠ [] ∧ (∀ c ∈ s, c.isDigit = true) ∧ digitsValue s = n := by
  unfold digits?
  by_cases h : s ≠ [] ∧ ∀ c ∈ s, c.isDigit = true
  · rw [if_neg (by simpa using h), Option.some.injEq]
    exact ⟨fun hvalue => ⟨h.1, h.2, hvalue⟩, fun hs => hs.2.2⟩
  · rw [if_pos (by simpa [or_iff_not_imp_left] using h)]
    simp only [reduceCtorEq, false_iff]
    intro hs
    exact h ⟨hs.1, hs.2.1⟩

theorem splitOn_eq (sep : Char) (s : List Char) : splitOn sep s = s.splitOn sep := by
  induction s with
  | nil => rw [List.splitOn_nil, splitOn]
  | cons c s ih =>
      rw [List.splitOn_cons_eq_if_modifyHead, splitOn, ih]
      cases hpieces : s.splitOn sep with
      | nil => exact absurd hpieces (List.splitOn_ne_nil sep s)
      | cons piece pieces => rfl

end Text

namespace Ipv4

/-! ### Texts -/

theorem octet?_eq_some_iff {s : List Char} {n : Nat} :
    octet? s = some n ↔ n < 256 ∧ s = Nat.toDigits 10 n := by
  have hoctet : Text.IsPlainNumeral s → octet? s = (Text.digits? s).filter (· < 256) := by
    intro hplain
    refine octet?.eq_2 s fun c t hs => ?_
    have hlength := congrArg List.length (hplain.2 (by simp [hs]))
    simp [hs] at hlength
  constructor
  · intro h
    have hzero : ∀ c t, s ≠ '0' :: c :: t := by
      rintro c t rfl
      cases h
    rw [octet?.eq_2 s fun c t hs => hzero c t hs, Option.filter_eq_some_iff,
      Text.digits?_eq_some_iff] at h
    obtain ⟨⟨hne, hdigits, rfl⟩, hlt⟩ := h
    have hplain : Text.IsPlainNumeral s := by
      refine ⟨hne, fun hhead => ?_⟩
      obtain ⟨t, rfl⟩ := List.head?_eq_some_iff.mp hhead
      cases t with
      | nil => rfl
      | cons c t => exact absurd rfl (hzero c t)
    exact ⟨by simpa using hlt, (Text.toDigits_digitsValue hdigits hplain).symm⟩
  · rintro ⟨hn, rfl⟩
    rw [hoctet (Text.isPlainNumeral_toDigits n), Option.filter_eq_some_iff,
      Text.digits?_eq_some_iff]
    refine ⟨⟨Nat.toDigits_ne_nil, ?_, Text.digitsValue_toDigits n⟩, by simpa using hn⟩
    intro c hc
    exact Nat.isDigit_of_mem_toDigits (by omega) (by omega) hc

/-- Pieces are read as octets exactly if they are how these are written. -/
theorem map_octet?_eq_iff {pieces : List (List Char)} {ns : List Nat} :
    pieces.map octet? = ns.map some
      ↔ (∀ n ∈ ns, n < 256) ∧ pieces = ns.map (Nat.toDigits 10) := by
  induction ns generalizing pieces with
  | nil => simp
  | cons n ns ih =>
      cases pieces with
      | nil => simp
      | cons piece pieces =>
          simp only [List.map_cons, List.cons.injEq, List.forall_mem_cons, ih,
            octet?_eq_some_iff]
          tauto

/-- Octets are below 256, and the address is put together from them. -/
theorem ofOctets_octets (a : Ipv4) : ∃ p q r s, a.octets = [p, q, r, s] ∧
    (∀ n ∈ [p, q, r, s], n < 256) ∧ ofOctets p q r s = a := by
  obtain ⟨bits⟩ := a
  have hlt : bits.toNat < 4294967296 := bits.isLt
  refine ⟨bits.toNat / 16777216, bits.toNat / 65536 % 256, bits.toNat / 256 % 256,
    bits.toNat % 256, rfl, ?_, ?_⟩
  · simp only [List.forall_mem_cons, List.not_mem_nil, false_implies, implies_true, and_true]
    omega
  · refine congrArg mk (BitVec.eq_of_toNat_eq ?_)
    rw [BitVec.toNat_ofNat]
    omega

theorem octets_ofOctets {p q r s : Nat} (h : ∀ n ∈ [p, q, r, s], n < 256) :
    (ofOctets p q r s).octets = [p, q, r, s] := by
  simp only [List.forall_mem_cons, List.not_mem_nil, false_implies, implies_true] at h
  obtain ⟨hp, hq, hr, hs, -⟩ := h
  have hbits : (ofOctets p q r s).bits.toNat = ((p * 256 + q) * 256 + r) * 256 + s := by
    rw [ofOctets, BitVec.toNat_ofNat]
    omega
  simp only [octets, hbits, Nat.pow_eq, List.cons.injEq, and_true]
  omega

theorem toList_text (a : Ipv4) :
    a.text.toList = ['.'].intercalate (a.octets.map (Nat.toDigits 10)) := by
  rw [text, String.toList_intercalate, List.map_map]
  congr 1
  refine List.map_congr_left fun n _ => ?_
  show (toString n).toList = _
  rw [Nat.toString_eq_repr, Nat.toList_repr]

theorem splitOn_text (a : Ipv4) :
    Text.splitOn '.' a.text.toList = a.octets.map (Nat.toDigits 10) := by
  rw [Text.splitOn_eq, toList_text, List.splitOn_intercalate]
  · intro s hs hdot
    obtain ⟨n, -, rfl⟩ := List.mem_map.mp hs
    exact absurd (Nat.isDigit_of_mem_toDigits (by omega) (by omega) hdot) (by decide)
  · simp [octets]

theorem parse?_text (a : Ipv4) : parse? a.text = some a := by
  obtain ⟨p, q, r, s, hoctets, hlt, heq⟩ := ofOctets_octets a
  have hmap : (Text.splitOn '.' a.text.toList).map octet? = [p, q, r, s].map some :=
    map_octet?_eq_iff.mpr ⟨hlt, by rw [splitOn_text, hoctets]⟩
  rw [parse?, hmap]
  exact congrArg some heq

theorem text_of_parse? {s : String} {a : Ipv4} (h : parse? s = some a) : s = a.text := by
  unfold parse? at h
  split at h
  · rename_i p q r t hmap
    obtain rfl := Option.some.inj h
    have hread : (Text.splitOn '.' s.toList).map octet? = [p, q, r, t].map some := hmap
    obtain ⟨hlt, hpieces⟩ := map_octet?_eq_iff.mp hread
    rw [← String.toList_inj, toList_text, octets_ofOctets hlt, ← hpieces, Text.splitOn_eq,
      List.intercalate_splitOn]
  · cases h

/-- **An address is read from a text exactly if it is written like that.** -/
theorem parse?_eq_some_iff {s : String} {a : Ipv4} : parse? s = some a ↔ s = a.text := by
  constructor
  · intro h
    exact text_of_parse? h
  · rintro rfl
    exact parse?_text a

/-! ### Bits -/

theorem agreesOutside_iff {wildcard a b : Ipv4} : agreesOutside wildcard a b = true ↔
    ∀ i < 32, wildcard.bits.getLsbD i = false → a.bits.getLsbD i = b.bits.getLsbD i := by
  rw [agreesOutside, beq_iff_eq, BitVec.eq_of_getLsbD_eq_iff]
  refine forall₂_congr fun i hi => ?_
  rw [BitVec.getLsbD_and, BitVec.getLsbD_and, BitVec.getLsbD_not]
  cases wildcard.bits.getLsbD i <;> simp [hi]

end Ipv4

end DeviceLint
