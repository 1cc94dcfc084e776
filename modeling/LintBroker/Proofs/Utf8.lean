/-
  LintBroker.Proofs.Utf8

  Texts and their bytes.  The bytes of a character are read as that character, whatever
  follows them (`firstPiece_encodeChar`), and no others are (`take_of_firstPiece`).  So a
  text comes back from its bytes, and a strict reader takes nothing else.
-/
import LintBroker.Text.Octets
import Mathlib.Tactic.IntervalCases

namespace LintBroker.Text

namespace Utf8

/-! ## Bytes -/

theorem toNat_toUInt8 {n : Nat} (h : n < 0x100) : n.toUInt8.toNat = n := by
  rw [Nat.toUInt8_eq, UInt8.toNat_ofNat_of_lt' h]

/-- A byte that goes on with a character contributes six bits. -/
theorem toNat_continuation (n : Nat) : (0x80 + n % 0x40).toUInt8.toNat = 0x80 + n % 0x40 :=
  toNat_toUInt8 (by omega)

theorem isContinuation_toUInt8 (n : Nat) : isContinuation (0x80 + n % 0x40).toUInt8 = true := by
  rw [isContinuation, toNat_continuation, Bool.and_eq_true, decide_eq_true_eq,
    decide_eq_true_eq]
  omega

/-! ## First bytes -/

theorem lead?_two {q : Nat} (hlow : 2 ≤ q) (hhigh : q < 0x20) :
    lead? (0xc0 + q) = some ⟨1, 0x80, 0xbf, q⟩ := by
  interval_cases q <;> rfl

/-- The bounds for the second of three bytes exclude longer writings than needed and surrogates. -/
theorem lead?_three {q m : Nat} (hq : q < 0x10) (hm : m < 0x40) (hshort : q = 0 → 0x20 ≤ m)
    (hsurrogate : q = 0xd → m < 0x20) :
    ∃ low high, lead? (0xe0 + q) = some ⟨2, low, high, q⟩ ∧ low ≤ 0x80 + m ∧ 0x80 + m ≤ high := by
  interval_cases q <;> exact ⟨_, _, rfl, by omega, by omega⟩

/-- The bounds for the second of four bytes exclude longer writings than needed and what is beyond
    the last character. -/
theorem lead?_four {q m : Nat} (hq : q < 5) (hm : m < 0x40) (hshort : q = 0 → 0x10 ≤ m)
    (hlast : q = 4 → m < 0x10) :
    ∃ low high, lead? (0xf0 + q) = some ⟨3, low, high, q⟩ ∧ low ≤ 0x80 + m ∧ 0x80 + m ≤ high := by
  interval_cases q <;> exact ⟨_, _, rfl, by omega, by omega⟩

/-! ## Characters -/

/-- The bytes of a character are read as that character. -/
theorem firstPiece_encodeChar (c : Char) (rest : List UInt8) :
    firstPiece (encodeChar c ++ rest) = some (.scalar c, (encodeChar c).length) := by
  have hvalid : c.toNat < 0xd800 ∨ 0xdfff < c.toNat ∧ c.toNat < 0x110000 := c.valid
  have hscalar : ∀ n, n = c.toNat → scalar n = .scalar c := by
    rintro n rfl
    rw [scalar, Char.ofNat_toNat]
  have hsecond : ∀ {m low high : Nat}, low ≤ m → m ≤ high →
      (decide (m < low) || decide (high < m)) = false := by
    intro m low high hlow hhigh
    rw [decide_eq_false (Nat.not_lt.mpr hlow), decide_eq_false (Nat.not_lt.mpr hhigh)]
    rfl
  unfold encodeChar
  generalize hn : c.toNat = n at hvalid hscalar
  simp only
  by_cases hone : n < 0x80
  · simp only [if_pos hone, List.cons_append, firstPiece, toNat_toUInt8 (by omega : n < 0x100),
      hscalar n rfl]
    rfl
  rw [if_neg hone]
  by_cases htwo : n < 0x800
  · have hfirst : (0xc0 + n / 0x40).toUInt8.toNat = 0xc0 + n / 0x40 := toNat_toUInt8 (by omega)
    have hlead := lead?_two (show 2 ≤ n / 0x40 by omega) (by omega)
    have hbounds := @hsecond (0x80 + n % 0x40) 0x80 0xbf (by omega) (by omega)
    have hnumber := hscalar (n / 0x40 * 0x40 + (0x80 + n % 0x40 - 0x80)) (by omega)
    simp only [if_pos htwo, List.cons_append, List.nil_append, firstPiece, hfirst,
      toNat_continuation, hlead, hbounds, hnumber,
      if_neg (show ¬ 0xc0 + n / 0x40 < 0x80 by omega), Bool.false_eq_true, if_false, if_true]
    rfl
  rw [if_neg htwo]
  by_cases hthree : n < 0x10000
  · have hfirst : (0xe0 + n / 0x1000).toUInt8.toNat = 0xe0 + n / 0x1000 := toNat_toUInt8 (by omega)
    obtain ⟨low, high, hlead, hlow, hhigh⟩ := lead?_three (show n / 0x1000 < 0x10 by omega)
      (show n / 0x40 % 0x40 < 0x40 by omega) (by omega) (by omega)
    have hnumber := hscalar ((n / 0x1000 * 0x40 + (0x80 + n / 0x40 % 0x40 - 0x80)) * 0x40
      + (0x80 + n % 0x40 - 0x80)) (by omega)
    simp only [if_pos hthree, List.cons_append, List.nil_append, firstPiece, hfirst,
      toNat_continuation, hlead, hsecond hlow hhigh, isContinuation_toUInt8, hnumber,
      if_neg (show ¬ 0xe0 + n / 0x1000 < 0x80 by omega), Bool.not_true, Bool.false_eq_true,
      if_false, if_true]
    rfl
  · have hfirst : (0xf0 + n / 0x40000).toUInt8.toNat = 0xf0 + n / 0x40000 :=
      toNat_toUInt8 (by omega)
    obtain ⟨low, high, hlead, hlow, hhigh⟩ := lead?_four (show n / 0x40000 < 5 by omega)
      (show n / 0x1000 % 0x40 < 0x40 by omega) (by omega) (by omega)
    have hnumber := hscalar (((n / 0x40000 * 0x40 + (0x80 + n / 0x1000 % 0x40 - 0x80)) * 0x40
      + (0x80 + n / 0x40 % 0x40 - 0x80)) * 0x40 + (0x80 + n % 0x40 - 0x80)) (by omega)
    simp only [if_neg hthree, List.cons_append, List.nil_append, firstPiece, hfirst,
      toNat_continuation, hlead, hsecond hlow hhigh, isContinuation_toUInt8, hnumber,
      if_neg (show ¬ 0xf0 + n / 0x40000 < 0x80 by omega), Bool.not_true, Bool.false_eq_true,
      if_false]
    rfl

/-! ## The bytes that are read as a character -/

theorem toUInt8_eq {b : UInt8} {n : Nat} (h : n = b.toNat) : n.toUInt8 = b := by
  rw [h, Nat.toUInt8_eq, UInt8.ofNat_toNat]

/-- What a first byte announces: one more byte, two or three, of which the next one is within
    bounds that leave out longer writings than needed, surrogates and what is beyond the last
    character. -/
theorem lead?_cases {b : Nat} {l : Lead} (h : lead? b = some l) :
    (l.following = 1 ∧ b = 0xc0 + l.bits ∧ 2 ≤ l.bits ∧ l.bits < 0x20 ∧ l.low = 0x80
        ∧ l.high = 0xbf)
      ∨ (l.following = 2 ∧ b = 0xe0 + l.bits ∧ l.bits < 0x10 ∧ 0x80 ≤ l.low ∧ l.high ≤ 0xbf
        ∧ (l.bits = 0 → 0xa0 ≤ l.low) ∧ (l.bits = 0xd → l.high ≤ 0x9f))
      ∨ (l.following = 3 ∧ b = 0xf0 + l.bits ∧ l.bits < 5 ∧ 0x80 ≤ l.low ∧ l.high ≤ 0xbf
        ∧ (l.bits = 0 → 0x90 ≤ l.low) ∧ (l.bits = 4 → l.high ≤ 0x8f)) := by
  unfold lead? at h
  split at h
  · cases h
  split at h
  · cases h
    refine Or.inl ⟨rfl, ?_, ?_, ?_, rfl, rfl⟩ <;> dsimp only <;> omega
  split at h
  · cases h
    refine Or.inr (Or.inl ⟨rfl, ?_, ?_, ?_, ?_, ?_, ?_⟩) <;> dsimp only <;> omega
  split at h
  · cases h
    refine Or.inr (Or.inl ⟨rfl, ?_, ?_, ?_, ?_, ?_, ?_⟩) <;> dsimp only <;> omega
  split at h
  · cases h
    refine Or.inr (Or.inl ⟨rfl, ?_, ?_, ?_, ?_, ?_, ?_⟩) <;> dsimp only <;> omega
  split at h
  · cases h
    refine Or.inr (Or.inr ⟨rfl, ?_, ?_, ?_, ?_, ?_, ?_⟩) <;> dsimp only <;> omega
  split at h
  · cases h
    refine Or.inr (Or.inr ⟨rfl, ?_, ?_, ?_, ?_, ?_, ?_⟩) <;> dsimp only <;> omega
  split at h
  · cases h
    refine Or.inr (Or.inr ⟨rfl, ?_, ?_, ?_, ?_, ?_, ?_⟩) <;> dsimp only <;> omega
  · cases h

theorem toNat_of_scalar_eq {n : Nat} {c : Char} (hn : n < 0xd800 ∨ 0xdfff < n ∧ n < 0x110000)
    (h : scalar n = .scalar c) : c.toNat = n := by
  cases h
  rw [Char.ofNat, dif_pos hn]
  rfl

theorem isContinuation_iff {b : UInt8} :
    isContinuation b = true ↔ 0x80 ≤ b.toNat ∧ b.toNat ≤ 0xbf := by
  rw [isContinuation, Bool.and_eq_true, decide_eq_true_eq, decide_eq_true_eq]

/-! The bytes of a character, told from the number that they stand for. -/

section Bytes

variable {c : Char} {b d e f : UInt8} {bits : Nat}

theorem encodeChar_eq_one (hc : c.toNat = b.toNat) (hb : b.toNat < 0x80) : encodeChar c = [b] := by
  simp only [encodeChar, hc, if_pos hb, toUInt8_eq rfl]

theorem encodeChar_eq_two (hc : c.toNat = bits * 0x40 + (d.toNat - 0x80))
    (hb : b.toNat = 0xc0 + bits) (hbits : 2 ≤ bits ∧ bits < 0x20)
    (hd : 0x80 ≤ d.toNat ∧ d.toNat ≤ 0xbf) : encodeChar c = [b, d] := by
  simp only [encodeChar, hc]
  rw [if_neg (by omega), if_pos (by omega), toUInt8_eq (b := b) (by omega),
    toUInt8_eq (b := d) (by omega)]

theorem encodeChar_eq_three
    (hc : c.toNat = (bits * 0x40 + (d.toNat - 0x80)) * 0x40 + (e.toNat - 0x80))
    (hb : b.toNat = 0xe0 + bits) (hbits : bits < 0x10 ∧ (bits = 0 → 0xa0 ≤ d.toNat))
    (hd : 0x80 ≤ d.toNat ∧ d.toNat ≤ 0xbf) (he : 0x80 ≤ e.toNat ∧ e.toNat ≤ 0xbf) :
    encodeChar c = [b, d, e] := by
  simp only [encodeChar, hc]
  rw [if_neg (by omega), if_neg (by omega), if_pos (by omega), toUInt8_eq (b := b) (by omega),
    toUInt8_eq (b := d) (by omega), toUInt8_eq (b := e) (by omega)]

theorem encodeChar_eq_four
    (hc : c.toNat = ((bits * 0x40 + (d.toNat - 0x80)) * 0x40 + (e.toNat - 0x80)) * 0x40
      + (f.toNat - 0x80))
    (hb : b.toNat = 0xf0 + bits) (hbits : bits = 0 → 0x90 ≤ d.toNat)
    (hd : 0x80 ≤ d.toNat ∧ d.toNat ≤ 0xbf) (he : 0x80 ≤ e.toNat ∧ e.toNat ≤ 0xbf)
    (hf : 0x80 ≤ f.toNat ∧ f.toNat ≤ 0xbf) : encodeChar c = [b, d, e, f] := by
  simp only [encodeChar, hc]
  rw [if_neg (by omega), if_neg (by omega), if_neg (by omega), toUInt8_eq (b := b) (by omega),
    toUInt8_eq (b := d) (by omega), toUInt8_eq (b := e) (by omega), toUInt8_eq (b := f) (by omega)]

end Bytes

/-- A character is read only from its own bytes. -/
theorem take_of_firstPiece {bytes : List UInt8} {c : Char} {taken : Nat}
    (h : firstPiece bytes = some (.scalar c, taken)) :
    bytes.take taken = encodeChar c ∧ 0 < taken := by
  unfold firstPiece at h
  split at h
  · cases h
  rename_i b rest
  have hb := b.toNat_lt
  split at h
  · -- One byte.
    rename_i hsmall
    simp only [Option.some.injEq, Prod.mk.injEq] at h
    obtain ⟨hchar, rfl⟩ := h
    have hc := toNat_of_scalar_eq (Or.inl (by omega)) hchar
    exact ⟨(encodeChar_eq_one hc hsmall).symm, by decide⟩
  split at h
  · cases h
  rename_i l hlead
  have hcases := lead?_cases hlead
  split at h
  · cases h
  rename_i d rest
  split at h
  · cases h
  rename_i hbounds
  simp only [Bool.or_eq_true, decide_eq_true_eq, not_or, Nat.not_lt] at hbounds
  split at h
  · -- Two bytes.
    rename_i hfollowing
    simp only [Option.some.injEq, Prod.mk.injEq] at h
    obtain ⟨hchar, rfl⟩ := h
    have hc := toNat_of_scalar_eq (Or.inl (by omega)) hchar
    exact ⟨(encodeChar_eq_two hc (by omega) (by omega) (by omega)).symm, by decide⟩
  rename_i hfollowing
  split at h
  · cases h
  rename_i e rest
  split at h
  · cases h
  rename_i he
  rw [Bool.not_eq_true, Bool.not_eq_false', isContinuation_iff] at he
  split at h
  · -- Three bytes.
    rename_i hfollowing
    simp only [Option.some.injEq, Prod.mk.injEq] at h
    obtain ⟨hchar, rfl⟩ := h
    have hc := toNat_of_scalar_eq (by omega) hchar
    exact ⟨(encodeChar_eq_three hc (by omega) (by omega) (by omega) he).symm, by decide⟩
  split at h
  · cases h
  rename_i f rest
  split at h
  · cases h
  rename_i hf
  rw [Bool.not_eq_true, Bool.not_eq_false', isContinuation_iff] at hf
  -- Four bytes.
  simp only [Option.some.injEq, Prod.mk.injEq] at h
  obtain ⟨hchar, rfl⟩ := h
  have hc := toNat_of_scalar_eq (by omega) hchar
  exact ⟨(encodeChar_eq_four hc (by omega) (by omega) (by omega) he hf).symm, by decide⟩

theorem isSome_firstPiece (b : UInt8) (rest : List UInt8) : (firstPiece (b :: rest)).isSome := by
  simp only [firstPiece]
  repeat' split
  all_goals rfl

/-! ## Texts -/

theorem piecesUpTo_flatMap (cs : List Char) {fuel : Nat}
    (h : (cs.flatMap encodeChar).length ≤ fuel) :
    piecesUpTo fuel (cs.flatMap encodeChar) = cs.map Piece.scalar := by
  induction cs generalizing fuel with
  | nil =>
    cases fuel with
    | zero => rfl
    | succ fuel => rfl
  | cons c rest ih =>
    have hsome : 0 < (encodeChar c).length := by
      unfold encodeChar
      simp only
      split
      · exact Nat.succ_pos _
      split
      · exact Nat.succ_pos _
      split
      · exact Nat.succ_pos _
      · exact Nat.succ_pos _
    rw [List.flatMap_cons, List.length_append] at h
    obtain ⟨fuel, rfl⟩ : ∃ less, fuel = less + 1 := ⟨fuel - 1, by omega⟩
    rw [List.flatMap_cons, piecesUpTo, firstPiece_encodeChar]
    simp only [List.drop_left, List.map_cons]
    rw [ih (by omega)]

theorem strictFrom_map_scalar (position : Nat) (cs : List Char) :
    strictFrom position (cs.map Piece.scalar) = .ok cs := by
  induction cs generalizing position with
  | nil => rfl
  | cons c rest ih => rw [List.map_cons, strictFrom, ih, Except.map]

/-- By induction on the bound of the pieces: each of them takes its own bytes. -/
theorem flatMap_of_strictFrom {fuel position : Nat} {bytes : List UInt8} {cs : List Char}
    (hfuel : bytes.length ≤ fuel) (h : strictFrom position (piecesUpTo fuel bytes) = .ok cs) :
    cs.flatMap encodeChar = bytes := by
  induction fuel generalizing position bytes cs with
  | zero =>
    cases List.eq_nil_of_length_eq_zero (Nat.le_zero.mp hfuel)
    cases h
    rfl
  | succ fuel ih =>
    cases bytes with
    | nil =>
      cases h
      rfl
    | cons b rest =>
      obtain ⟨⟨piece, taken⟩, hpiece⟩ := Option.isSome_iff_exists.mp (isSome_firstPiece b rest)
      rw [piecesUpTo, hpiece] at h
      cases piece with
      | broken _ _ => cases h
      | scalar c =>
        obtain ⟨htake, htaken⟩ := take_of_firstPiece hpiece
        rw [strictFrom] at h
        cases hothers : strictFrom (position + (encodeChar c).length)
            (piecesUpTo fuel ((b :: rest).drop taken)) with
        | error fault =>
          rw [hothers] at h
          cases h
        | ok others =>
          rw [hothers] at h
          cases h
          have hless : ((b :: rest).drop taken).length ≤ fuel := by
            rw [List.length_drop]
            omega
          rw [List.flatMap_cons, ih hless hothers, ← htake, List.take_append_drop]

/-- Exactly the bytes of a text are read strictly, and as that text. -/
theorem decode_eq_ok_iff {bytes : List UInt8} {s : String} :
    decode bytes = .ok s ↔ bytes = encode s := by
  constructor
  · intro h
    rw [decode] at h
    cases hstrict : strictFrom 0 (pieces bytes) with
    | error fault =>
      rw [hstrict] at h
      cases h
    | ok cs =>
      rw [hstrict] at h
      cases h
      rw [encode, String.toList_ofList]
      exact (flatMap_of_strictFrom (Nat.le_refl _) hstrict).symm
  · rintro rfl
    have hpieces : pieces (encode s) = s.toList.map Piece.scalar :=
      piecesUpTo_flatMap s.toList (Nat.le_refl _)
    rw [decode, hpieces, strictFrom_map_scalar, Except.map, String.ofList_toList]

/-- A text comes back from its bytes. -/
theorem decodeLenient_encode (s : String) : decodeLenient (encode s) = s := by
  have hpieces : pieces (encode s) = s.toList.map Piece.scalar :=
    piecesUpTo_flatMap s.toList (Nat.le_refl _)
  have hlenient : Piece.lenient ∘ Piece.scalar = id := rfl
  rw [decodeLenient, hpieces, List.map_map, hlenient, List.map_id, String.ofList_toList]

end Utf8

/-- A text comes back from its octets. -/
theorem Octets.toText_ofText (s : String) : Octets.toText (Octets.ofText s) = s := by
  unfold Octets.toText Octets.ofText
  rw [Octets.toBytes_ofBytes, Utf8.decodeLenient_encode]

end LintBroker.Text
