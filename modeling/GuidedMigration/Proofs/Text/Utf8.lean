/-
This file shows that writing a text as bytes and reading bytes as a text undo each other. The bytes
of a character are a first byte, which says how many follow and between which bounds the second one
lies, and the bytes that follow; reading takes exactly these and puts their bits together again. A
character has one form only, because the bounds that a first byte sets for the second one leave out
longer forms, surrogates and numbers that are no code points.
-/
import GuidedMigration.Text.Utf8
import Mathlib.Data.List.Basic

namespace GuidedMigration.Utf8

/-- Whether bytes may follow the first byte of a character that sets bounds for the second one. -/
def Continues (low high : Nat) : Bytes → Prop
  | [] => True
  | byte :: rest => low ≤ byte.toNat ∧ byte.toNat ≤ high ∧ Continues 0x80 0xBF rest

theorem continuing_append {low high : Nat} {tail : Bytes} (continues : Continues low high tail)
    (rest : Bytes) : continuing tail.length low high (tail ++ rest) = tail.length := by
  induction tail generalizing low high with
  | nil => rfl
  | cons byte tail inductionHypothesis =>
    obtain ⟨lower, upper, behind⟩ := continues
    simp [continuing, lower, upper, inductionHypothesis behind]

/-- The bytes that belong to the last character are passed over. -/
theorem decodeFrom_append (tail : Bytes) (position : Nat) (rest : Bytes) :
    decodeFrom tail.length position (tail ++ rest) =
      decodeFrom 0 (position + tail.length) rest := by
  induction tail generalizing position with
  | nil => rfl
  | cons byte tail inductionHypothesis =>
    rw [List.cons_append, List.length_cons, decodeFrom, inductionHypothesis, Nat.add_right_comm,
      Nat.add_assoc]

/-- The code point that a first byte and those that follow it write. -/
def codeOf (lead : UInt8) (tail : Bytes) : Nat :=
  tail.foldl (fun code next => code * 64 + next.toNat % 64) (leadBits tail.length lead)

/-- One character is read with the bytes that it takes. -/
theorem decodeFrom_cons {lead : UInt8} {tail : Bytes} {low high : Nat}
    (leads : follow? lead = some (tail.length, low, high)) (continues : Continues low high tail)
    (position : Nat) (rest : Bytes) :
    decodeFrom 0 position (lead :: (tail ++ rest)) =
      (decodeFrom 0 (position + 1 + tail.length) rest).map
        (Char.ofNat (codeOf lead tail) :: ·) := by
  rw [decodeFrom, leads]
  simp only [continuing_append continues, Nat.lt_irrefl, if_false, List.take_left,
    decodeFrom_append, codeOf]
  cases decodeFrom 0 (position + 1 + tail.length) rest <;> rfl

/-! ### The bytes of a character -/

theorem follow?_two {byte : UInt8} (lower : 0xC2 ≤ byte.toNat) (upper : byte.toNat ≤ 0xDF) :
    follow? byte = some (1, 0x80, 0xBF) := by
  have large : ¬ byte.toNat < 0x80 := by omega
  simp [follow?, large, lower, upper]

theorem follow?_three {byte : UInt8} (lower : 0xE0 ≤ byte.toNat) (upper : byte.toNat ≤ 0xEF) :
    follow? byte = some (2, if byte.toNat = 0xE0 then 0xA0 else 0x80,
      if byte.toNat = 0xED then 0x9F else 0xBF) := by
  have large : ¬ byte.toNat < 0x80 := by omega
  have longer : ¬ byte.toNat ≤ 0xDF := by omega
  by_cases first : byte.toNat = 0xE0
  · simp [follow?, first]
  · by_cases surrogate : byte.toNat = 0xED
    · simp [follow?, surrogate]
    · have between : 0xE1 ≤ byte.toNat := by omega
      simp [follow?, large, longer, first, surrogate, between, upper]

theorem follow?_four {byte : UInt8} (lower : 0xF0 ≤ byte.toNat) (upper : byte.toNat ≤ 0xF4) :
    follow? byte = some (3, if byte.toNat = 0xF0 then 0x90 else 0x80,
      if byte.toNat = 0xF4 then 0x8F else 0xBF) := by
  have large : ¬ byte.toNat < 0x80 := by omega
  have longer : ¬ byte.toNat ≤ 0xDF := by omega
  have longest : ¬ byte.toNat ≤ 0xEF := by omega
  have notFirst : byte.toNat ≠ 0xE0 := by omega
  have noSurrogate : byte.toNat ≠ 0xED := by omega
  by_cases first : byte.toNat = 0xF0
  · simp [follow?, first]
  · by_cases last : byte.toNat = 0xF4
    · simp [follow?, last]
    · have between : 0xF1 ≤ byte.toNat := by omega
      have notLast : byte.toNat ≤ 0xF3 := by omega
      simp [follow?, large, longer, longest, notFirst, noSurrogate, first, last, between, notLast]

theorem toNat_ofNat_of_lt {code : Nat} (small : code < 256) : (UInt8.ofNat code).toNat = code := by
  rw [UInt8.toNat_ofNat', Nat.mod_eq_of_lt small]

/-- The bytes of a character have the form that is read, and write its code point. -/
theorem encodeChar_eq (char : Char) :
    ∃ lead tail low high, encodeChar char = lead :: tail ∧
      follow? lead = some (tail.length, low, high) ∧ Continues low high tail ∧
      codeOf lead tail = char.toNat := by
  have valid : char.toNat < 0xD800 ∨ 0xDFFF < char.toNat ∧ char.toNat < 0x110000 := char.valid
  generalize codeEq : char.toNat = code at valid
  rw [encodeChar, codeEq]
  by_cases one : code < 0x80
  · have lead : (UInt8.ofNat code).toNat = code := toNat_ofNat_of_lt (by omega)
    refine ⟨UInt8.ofNat code, [], 0, 0, by simp [one], ?_, trivial, ?_⟩
    · simp [follow?, lead, one]
    · simp [codeOf, leadBits, lead]
  by_cases two : code < 0x800
  · have lead := toNat_ofNat_of_lt (show 0xC0 + code / 64 < 256 by omega)
    have second := toNat_ofNat_of_lt (show 0x80 + code % 64 < 256 by omega)
    refine ⟨UInt8.ofNat (0xC0 + code / 64), [UInt8.ofNat (0x80 + code % 64)], _, _,
      by simp [one, two], follow?_two (by omega) (by omega), ?_, ?_⟩
    · simp only [Continues, second, and_true]
      omega
    · simp only [codeOf, leadBits, List.foldl, List.length, lead, second]
      omega
  have second := toNat_ofNat_of_lt (show 0x80 + code / 64 % 64 < 256 by omega)
  have third := toNat_ofNat_of_lt (show 0x80 + code % 64 < 256 by omega)
  by_cases three : code < 0x10000
  · have lead := toNat_ofNat_of_lt (show 0xE0 + code / 4096 < 256 by omega)
    refine ⟨UInt8.ofNat (0xE0 + code / 4096),
      [UInt8.ofNat (0x80 + code / 64 % 64), UInt8.ofNat (0x80 + code % 64)], _, _,
      by simp [one, two, three], follow?_three (by omega) (by omega), ?_, ?_⟩
    · simp only [Continues, lead, second, third, and_true]
      split <;> split <;> omega
    · simp only [codeOf, leadBits, List.foldl, List.length, lead, second, third]
      omega
  · have lead := toNat_ofNat_of_lt (show 0xF0 + code / 262144 < 256 by omega)
    have extra := toNat_ofNat_of_lt (show 0x80 + code / 4096 % 64 < 256 by omega)
    refine ⟨UInt8.ofNat (0xF0 + code / 262144), [UInt8.ofNat (0x80 + code / 4096 % 64),
      UInt8.ofNat (0x80 + code / 64 % 64), UInt8.ofNat (0x80 + code % 64)], _, _,
      by simp [one, two, three], follow?_four (by omega) (by omega), ?_, ?_⟩
    · simp only [Continues, lead, extra, second, third, and_true]
      split <;> split <;> omega
    · simp only [codeOf, leadBits, List.foldl, List.length, lead, extra, second, third]
      omega

/-! ### Texts -/

theorem decodeFrom_encode (text : Text) (position : Nat) :
    decodeFrom 0 position (encode text) = .ok text := by
  induction text generalizing position with
  | nil => rfl
  | cons char text inductionHypothesis =>
    obtain ⟨lead, tail, low, high, bytes, leads, continues, code⟩ := encodeChar_eq char
    rw [encode, List.flatMap_cons, bytes, List.cons_append, decodeFrom_cons leads continues,
      ← encode, inductionHypothesis, code, Char.ofNat_toNat]
    rfl

/-- What is written is read back. -/
theorem decode_encode (text : Text) : decode (encode text) = .ok text := decodeFrom_encode text 0

end GuidedMigration.Utf8

/-! ### One form only -/

namespace GuidedMigration.Utf8

variable {lead byte : UInt8} {tail bytes : Bytes} {needed low high position : Nat} {text : Text}

/-! ### What a first byte asks for -/

/-- What a first byte says, in numbers: how many bytes follow, and the bounds of the second one. -/
inductive Leads : Nat → Nat → Nat → Nat → Prop
  | one {code low high : Nat} (small : code < 0x80) : Leads code 0 low high
  | two {code : Nat} (lower : 0xC2 ≤ code) (upper : code ≤ 0xDF) : Leads code 1 0x80 0xBF
  | three {code low high : Nat} (lower : 0xE0 ≤ code) (upper : code ≤ 0xEF) (least : 0x80 ≤ low)
      (most : high ≤ 0xBF) (long : code = 0xE0 → 0xA0 ≤ low)
      (surrogate : code = 0xED → high ≤ 0x9F) : Leads code 2 low high
  | four {code low high : Nat} (lower : 0xF0 ≤ code) (upper : code ≤ 0xF4) (least : 0x80 ≤ low)
      (most : high ≤ 0xBF) (long : code = 0xF0 → 0x90 ≤ low)
      (large : code = 0xF4 → high ≤ 0x8F) : Leads code 3 low high

theorem leads_of_follow? (leads : follow? byte = some (needed, low, high)) :
    Leads byte.toNat needed low high := by
  unfold follow? at leads
  simp only [Bool.and_eq_true, decide_eq_true_eq] at leads
  generalize byte.toNat = code at leads
  split at leads
  · obtain ⟨rfl, -⟩ := Prod.mk.inj (Option.some.inj leads)
    exact .one (by assumption)
  split at leads
  · cases leads
    exact .two (by omega) (by omega)
  split at leads
  · cases leads
    exact .three (by omega) (by omega) (by omega) (by omega) (by omega) (by omega)
  split at leads
  · cases leads
    exact .three (by omega) (by omega) (by omega) (by omega) (by omega) (by omega)
  split at leads
  · cases leads
    exact .three (by omega) (by omega) (by omega) (by omega) (by omega) (by omega)
  split at leads
  · cases leads
    exact .four (by omega) (by omega) (by omega) (by omega) (by omega) (by omega)
  split at leads
  · cases leads
    exact .four (by omega) (by omega) (by omega) (by omega) (by omega) (by omega)
  split at leads
  · cases leads
    exact .four (by omega) (by omega) (by omega) (by omega) (by omega) (by omega)
  · cases leads

theorem continuing_le (needed low high : Nat) (bytes : Bytes) :
    continuing needed low high bytes ≤ needed := by
  induction needed generalizing low high bytes with
  | zero => exact Nat.le_refl 0
  | succ needed inductionHypothesis =>
    cases bytes with
    | nil => exact Nat.zero_le _
    | cons byte bytes =>
      rw [continuing]
      split
      · exact Nat.succ_le_succ (inductionHypothesis _ _ _)
      · exact Nat.zero_le _

theorem continues_of_continuing (more : continuing needed low high bytes = needed) :
    needed ≤ bytes.length ∧ Continues low high (bytes.take needed) := by
  induction needed generalizing low high bytes with
  | zero => exact ⟨Nat.zero_le _, trivial⟩
  | succ needed inductionHypothesis =>
    cases bytes with
    | nil => simp [continuing] at more
    | cons byte bytes =>
      rw [continuing] at more
      split at more
      · rename_i bounds
        rw [Bool.and_eq_true, decide_eq_true_eq, decide_eq_true_eq] at bounds
        obtain ⟨enough, continues⟩ := inductionHypothesis (Nat.succ.inj more)
        exact ⟨Nat.succ_le_succ enough, bounds.1, bounds.2, continues⟩
      · cases more

/-! ### The one form of a character -/

theorem toNat_ofNat {code : Nat} (valid : code < 0xD800 ∨ 0xDFFF < code ∧ code < 0x110000) :
    (Char.ofNat code).toNat = code := by
  rw [Char.ofNat, dif_pos (show code.isValidChar from valid)]
  rfl

theorem ofNat_eq {code : Nat} (same : code = byte.toNat) : UInt8.ofNat code = byte := by
  rw [same]
  exact UInt8.ofNat_toNat

/-- The character that bytes of the right form write has these bytes. -/
theorem encodeChar_ofNat (leads : Leads lead.toNat tail.length low high)
    (continues : Continues low high tail) :
    encodeChar (Char.ofNat (codeOf lead tail)) = lead :: tail := by
  generalize size : tail.length = count at leads
  cases leads with
  | one small =>
    obtain rfl := List.length_eq_zero_iff.mp size
    have code : codeOf lead [] = lead.toNat := rfl
    rw [encodeChar, code, toNat_ofNat (by omega), if_pos small, ofNat_eq rfl]
  | two lower upper =>
    obtain ⟨second, rfl⟩ := List.length_eq_one_iff.mp size
    obtain ⟨least, most, -⟩ := continues
    have code : codeOf lead [second] = lead.toNat % 32 * 64 + second.toNat % 64 := rfl
    rw [encodeChar, code, toNat_ofNat (by omega)]
    rw [if_neg (by omega), if_pos (by omega), List.cons.injEq, List.cons.injEq]
    refine ⟨ofNat_eq ?_, ofNat_eq ?_, rfl⟩ <;> omega
  | three lower upper least most long surrogate =>
    obtain ⟨second, third, rfl⟩ := List.length_eq_two.mp size
    obtain ⟨least', most', least'', most'', -⟩ := continues
    have code : codeOf lead [second, third] =
        (lead.toNat % 16 * 64 + second.toNat % 64) * 64 + third.toNat % 64 := rfl
    rw [encodeChar, code, toNat_ofNat (by omega)]
    rw [if_neg (by omega), if_neg (by omega), if_pos (by omega), List.cons.injEq, List.cons.injEq,
      List.cons.injEq]
    refine ⟨ofNat_eq ?_, ofNat_eq ?_, ofNat_eq ?_, rfl⟩ <;> omega
  | four lower upper least most long large =>
    obtain ⟨second, third, fourth, rfl⟩ := List.length_eq_three.mp size
    obtain ⟨least', most', least'', most'', least''', most''', -⟩ := continues
    have code : codeOf lead [second, third, fourth] =
        ((lead.toNat % 8 * 64 + second.toNat % 64) * 64 + third.toNat % 64) * 64 +
          fourth.toNat % 64 := rfl
    rw [encodeChar, code, toNat_ofNat (by omega)]
    rw [if_neg (by omega), if_neg (by omega), if_neg (by omega), List.cons.injEq, List.cons.injEq,
      List.cons.injEq, List.cons.injEq]
    refine ⟨ofNat_eq ?_, ofNat_eq ?_, ofNat_eq ?_, ofNat_eq ?_, rfl⟩ <;> omega

/-! ### Texts -/

theorem exists_of_map_ok {Fault Answer Other : Type} {answer : Except Fault Answer}
    {change : Answer → Other} {other : Other} (ok : answer.map change = .ok other) :
    ∃ found, answer = .ok found ∧ change found = other := by
  cases answer with
  | error fault => cases ok
  | ok found => exact ⟨found, rfl, Except.ok.inj ok⟩

/-- Bytes that are read as a text are those of a character in front of bytes that are read. -/
theorem exists_of_decodeFrom_cons
    (decoded : decodeFrom 0 position (lead :: bytes) = .ok text) :
    ∃ tail rest more low high, bytes = tail ++ rest ∧ Leads lead.toNat tail.length low high ∧
      Continues low high tail ∧ text = Char.ofNat (codeOf lead tail) :: more ∧
      decodeFrom 0 (position + 1 + tail.length) rest = .ok more := by
  have form := decoded
  rw [decodeFrom] at form
  split at form
  · cases form
  · rename_i needed low high leads
    dsimp only at form
    split at form
    · cases form
    · rename_i enough
      have count : continuing needed low high bytes = needed :=
        Nat.le_antisymm (continuing_le needed low high bytes) (Nat.le_of_not_lt enough)
      obtain ⟨long, continues⟩ := continues_of_continuing count
      have size : (bytes.take needed).length = needed := List.length_take_of_le long
      rw [← List.take_append_drop needed bytes, decodeFrom_cons (size.symm ▸ leads) continues]
        at decoded
      obtain ⟨more, read, rfl⟩ := exists_of_map_ok decoded
      exact ⟨bytes.take needed, bytes.drop needed, more, low, high,
        (List.take_append_drop needed bytes).symm, size.symm ▸ leads_of_follow? leads, continues,
        rfl, read⟩

/-- What is read is written as it was. -/
theorem encode_of_decodeFrom {text : Text} (bytes : Bytes) (position : Nat)
    (decoded : decodeFrom 0 position bytes = .ok text) : encode text = bytes := by
  match bytes with
  | [] =>
    cases decoded
    rfl
  | lead :: bytes =>
    obtain ⟨tail, rest, more, low, high, rfl, leads, continues, rfl, read⟩ :=
      exists_of_decodeFrom_cons decoded
    have behind := encode_of_decodeFrom rest _ read
    rw [encode, List.flatMap_cons, encodeChar_ofNat leads continues, ← encode, behind,
      List.cons_append]
termination_by bytes.length

theorem encode_of_decode (decoded : decode bytes = .ok text) : encode text = bytes :=
  encode_of_decodeFrom bytes 0 decoded

end GuidedMigration.Utf8
