import RowDecl.Proofs.CaseImages
import RowDecl.Text.Utf8

/-!
# Bytes and the texts they encode

`decode_ok_iff`: bytes are decoded into a text exactly if they are its encoding, so bytes that
encode no text are refused (`ofBytes_error_iff`). It goes by one character at a time: the bytes of a
character are read as this character (`decodeFrom_encode`), and where bytes are read as anything,
they begin with those of a character (`exists_encode_of_ok`). Both take from the first byte how many
there are, with one lemma for each length (`decodeFrom_three_ok_iff` and the like).
-/

namespace RowDecl.Text

variable {position : Nat} {done s : List Char} {b : UInt8} {r : List UInt8}

/-! ## First bytes -/

theorem begin?_one (h : b.toNat < 0x80) : begin? b = some (.inl (Char.ofNat b.toNat)) := by
  simp only [begin?, h, if_true]

theorem begin?_two (h : 0xC2 ≤ b.toNat) (h' : b.toNat < 0xE0) :
    begin? b = some (.inr ⟨b, 1, 0, 0x80, 0xBF, b.toNat - 0xC0⟩) := by
  have h1 : ¬b.toNat < 0x80 := by omega
  have h2 : ¬b.toNat < 0xC2 := by omega
  simp only [begin?, h1, h2, h', if_true, if_false]

theorem begin?_three (h : 0xE0 ≤ b.toNat) (h' : b.toNat < 0xF0) :
    begin? b = some (.inr ⟨b, 1, 1, if b.toNat = 0xE0 then 0xA0 else 0x80,
      if b.toNat = 0xED then 0x9F else 0xBF, b.toNat - 0xE0⟩) := by
  have h1 : ¬b.toNat < 0x80 := by omega
  have h2 : ¬b.toNat < 0xC2 := by omega
  have h3 : ¬b.toNat < 0xE0 := by omega
  simp only [begin?, h1, h2, h3, h', if_true, if_false]

theorem begin?_four (h : 0xF0 ≤ b.toNat) (h' : b.toNat < 0xF5) :
    begin? b = some (.inr ⟨b, 1, 2, if b.toNat = 0xF0 then 0x90 else 0x80,
      if b.toNat = 0xF4 then 0x8F else 0xBF, b.toNat - 0xF0⟩) := by
  have h1 : ¬b.toNat < 0x80 := by omega
  have h2 : ¬b.toNat < 0xC2 := by omega
  have h3 : ¬b.toNat < 0xE0 := by omega
  have h4 : ¬b.toNat < 0xF0 := by omega
  simp only [begin?, h1, h2, h3, h4, h', if_true, if_false]

/-- A byte that begins nothing. -/
theorem begin?_none (h : 0x80 ≤ b.toNat) (h' : b.toNat < 0xC2 ∨ 0xF5 ≤ b.toNat) :
    begin? b = none := by
  simp only [begin?]
  repeat' split
  all_goals first | rfl | omega

/-! ## Later bytes -/

/-- What is read behind byte `b` of a character that has begun. -/
def decodeBehind (position : Nat) (done : List Char) (g : Begun) (b : UInt8) (r : List UInt8) :
    Except Utf8Fault (List Char) :=
  let value := 0x40 * g.value + (b.toNat - 0x80)
  match g.owed with
  | 0 => decodeFrom (position + 1) (Char.ofNat value :: done) none r
  | owed + 1 =>
    decodeFrom (position + 1) done (some ⟨g.first, g.taken + 1, owed, 0x80, 0xBF, value⟩) r

/-- Inside a character, the next byte is in range and comes into the value. -/
theorem decodeFrom_begun_ok_iff {g : Begun} {bytes : List UInt8} :
    decodeFrom position done (some g) bytes = .ok s ↔
      ∃ b r, bytes = b :: r ∧ (g.low ≤ b.toNat ∧ b.toNat ≤ g.high) ∧
        decodeBehind position done g b r = .ok s := by
  cases bytes with
  | nil => simp [decodeFrom]
  | cons b r =>
    by_cases h : g.low ≤ b.toNat ∧ b.toNat ≤ g.high
    · rw [decodeFrom, if_pos h]
      refine ⟨fun hs => ⟨b, r, rfl, h, hs⟩, ?_⟩
      rintro ⟨_, _, ⟨⟩, -, hs⟩
      exact hs
    · rw [decodeFrom, if_neg h]
      refine ⟨nofun, ?_⟩
      rintro ⟨_, _, ⟨⟩, hb, -⟩
      exact absurd hb h

section
variable {first : UInt8} {taken low high value : Nat} {bytes : List UInt8}

/-- The last byte of a character gives the character. -/
theorem decodeFrom_last_ok_iff :
    decodeFrom position done (some ⟨first, taken, 0, low, high, value⟩) bytes = .ok s ↔
      ∃ b r, bytes = b :: r ∧ (low ≤ b.toNat ∧ b.toNat ≤ high) ∧
        decodeFrom (position + 1) (Char.ofNat (0x40 * value + (b.toNat - 0x80)) :: done) none r =
          .ok s :=
  decodeFrom_begun_ok_iff

/-- Any other byte of a character goes into its value. -/
theorem decodeFrom_next_ok_iff {owed : Nat} :
    decodeFrom position done (some ⟨first, taken, owed + 1, low, high, value⟩) bytes = .ok s ↔
      ∃ b r, bytes = b :: r ∧ (low ≤ b.toNat ∧ b.toNat ≤ high) ∧
        decodeFrom (position + 1) done
          (some ⟨first, taken + 1, owed, 0x80, 0xBF, 0x40 * value + (b.toNat - 0x80)⟩) r = .ok s :=
  decodeFrom_begun_ok_iff

end

/-! ## Lengths -/

/-- A later byte of a character. -/
def IsLater (b : UInt8) : Prop := 0x80 ≤ b.toNat ∧ b.toNat ≤ 0xBF

theorem decodeFrom_one (h : b.toNat < 0x80) :
    decodeFrom position done none (b :: r) =
      decodeFrom (position + 1) (Char.ofNat b.toNat :: done) none r := by
  rw [decodeFrom, begin?_one h]

theorem decodeFrom_two_ok_iff (h : 0xC2 ≤ b.toNat) (h' : b.toNat < 0xE0) :
    decodeFrom position done none (b :: r) = .ok s ↔
      ∃ b₂ rest, r = b₂ :: rest ∧ IsLater b₂ ∧
        decodeFrom (position + 2)
          (Char.ofNat (0x40 * (b.toNat - 0xC0) + (b₂.toNat - 0x80)) :: done) none rest = .ok s := by
  rw [decodeFrom, begin?_two h h']
  exact decodeFrom_last_ok_iff

/-- A character of three bytes is not one of fewer, and no half of a surrogate pair. -/
theorem decodeFrom_three_ok_iff (h : 0xE0 ≤ b.toNat) (h' : b.toNat < 0xF0) :
    decodeFrom position done none (b :: r) = .ok s ↔
      ∃ b₂ b₃ rest v, r = b₂ :: b₃ :: rest ∧ IsLater b₂ ∧ IsLater b₃ ∧
        v = 0x40 * (0x40 * (b.toNat - 0xE0) + (b₂.toNat - 0x80)) + (b₃.toNat - 0x80) ∧
        0x800 ≤ v ∧ v.isValidChar ∧
        decodeFrom (position + 3) (Char.ofNat v :: done) none rest = .ok s := by
  rw [decodeFrom, begin?_three h h', decodeFrom_next_ok_iff]
  unfold IsLater Nat.isValidChar
  constructor
  · rintro ⟨b₂, r, rfl, h₂, hs⟩
    obtain ⟨b₃, rest, rfl, h₃, hs⟩ := decodeFrom_last_ok_iff.1 hs
    refine ⟨b₂, b₃, rest, _, rfl, ?_, h₃, rfl, ?_, ?_, hs⟩
    all_goals split at h₂ <;> split at h₂ <;> omega
  · rintro ⟨b₂, b₃, rest, v, rfl, h₂, h₃, hv, hlong, hvalid, hs⟩
    rw [hv] at hs
    refine ⟨b₂, _, rfl, ?_, ?_⟩
    · constructor <;> split <;> omega
    · rw [decodeFrom_last_ok_iff]
      exact ⟨b₃, rest, rfl, h₃, hs⟩

/-- A character of four bytes is not one of fewer, and not beyond the last one. -/
theorem decodeFrom_four_ok_iff (h : 0xF0 ≤ b.toNat) (h' : b.toNat < 0xF5) :
    decodeFrom position done none (b :: r) = .ok s ↔
      ∃ b₂ b₃ b₄ rest v, r = b₂ :: b₃ :: b₄ :: rest ∧ IsLater b₂ ∧ IsLater b₃ ∧ IsLater b₄ ∧
        v = 0x40 * (0x40 * (0x40 * (b.toNat - 0xF0) + (b₂.toNat - 0x80)) + (b₃.toNat - 0x80)) +
          (b₄.toNat - 0x80) ∧
        0x10000 ≤ v ∧ v.isValidChar ∧
        decodeFrom (position + 4) (Char.ofNat v :: done) none rest = .ok s := by
  rw [decodeFrom, begin?_four h h', decodeFrom_next_ok_iff]
  unfold IsLater Nat.isValidChar
  constructor
  · rintro ⟨b₂, r, rfl, h₂, hs⟩
    obtain ⟨b₃, r, rfl, h₃, hs⟩ := decodeFrom_next_ok_iff.1 hs
    obtain ⟨b₄, rest, rfl, h₄, hs⟩ := decodeFrom_last_ok_iff.1 hs
    refine ⟨b₂, b₃, b₄, rest, _, rfl, ?_, h₃, h₄, rfl, ?_, ?_, hs⟩
    all_goals split at h₂ <;> split at h₂ <;> omega
  · rintro ⟨b₂, b₃, b₄, rest, v, rfl, h₂, h₃, h₄, hv, hlong, hvalid, hs⟩
    rw [hv] at hs
    refine ⟨b₂, _, rfl, ?_, ?_⟩
    · constructor <;> split <;> omega
    · rw [decodeFrom_next_ok_iff]
      refine ⟨b₃, _, rfl, h₃, ?_⟩
      rw [decodeFrom_last_ok_iff]
      exact ⟨b₄, rest, rfl, h₄, hs⟩

/-! ## Characters -/

theorem encode_ofNat {v : Nat} (h : v.isValidChar) :
    String.utf8EncodeChar (Char.ofNat v) =
      if v ≤ 0x7F then [UInt8.ofNat v]
      else if v ≤ 0x7FF then [UInt8.ofNat (v / 64 % 32 + 192), UInt8.ofNat (v % 64 + 128)]
      else if v ≤ 0xFFFF then
        [UInt8.ofNat (v / 4096 % 16 + 224), UInt8.ofNat (v / 64 % 64 + 128),
          UInt8.ofNat (v % 64 + 128)]
      else
        [UInt8.ofNat (v / 262144 % 8 + 240), UInt8.ofNat (v / 4096 % 64 + 128),
          UInt8.ofNat (v / 64 % 64 + 128), UInt8.ofNat (v % 64 + 128)] := by
  have hv : (Char.ofNat v).val.toNat = v := toNat_ofNat h
  rw [String.utf8EncodeChar.eq_1, hv]

theorem ofNat_eq_of_toNat {b : UInt8} {n : Nat} (h : n = b.toNat) : UInt8.ofNat n = b := by
  rw [h, UInt8.ofNat_toNat]

/-- Where bytes are read, they begin with those of a character, and this is what is read. -/
theorem exists_encode_of_ok (h : decodeFrom position done none (b :: r) = .ok s) :
    ∃ c rest position', b :: r = String.utf8EncodeChar c ++ rest ∧
      decodeFrom position' (c :: done) none rest = .ok s := by
  rcases Nat.lt_or_ge b.toNat 0x80 with h1 | h1
  · rw [decodeFrom_one h1] at h
    refine ⟨_, r, _, ?_, h⟩
    rw [encode_ofNat (.inl (by omega)), if_pos (by omega), UInt8.ofNat_toNat]
    rfl
  rcases Nat.lt_or_ge b.toNat 0xC2 with h2 | h2
  · rw [decodeFrom, begin?_none h1 (.inl h2)] at h
    cases h
  rcases Nat.lt_or_ge b.toNat 0xE0 with h3 | h3
  · obtain ⟨b₂, rest, rfl, h₂, h⟩ := (decodeFrom_two_ok_iff h2 h3).1 h
    unfold IsLater at h₂
    refine ⟨_, rest, _, ?_, h⟩
    rw [encode_ofNat (.inl (by omega)), if_neg (by omega), if_pos (by omega),
      ofNat_eq_of_toNat (b := b) (by omega), ofNat_eq_of_toNat (b := b₂) (by omega)]
    rfl
  rcases Nat.lt_or_ge b.toNat 0xF0 with h4 | h4
  · obtain ⟨b₂, b₃, rest, v, rfl, h₂, h₃, hv, hlong, hvalid, h⟩ :=
      (decodeFrom_three_ok_iff h3 h4).1 h
    unfold IsLater at h₂ h₃
    refine ⟨_, rest, _, ?_, h⟩
    rw [encode_ofNat hvalid, if_neg (by omega), if_neg (by omega), if_pos (by omega),
      ofNat_eq_of_toNat (b := b) (by omega), ofNat_eq_of_toNat (b := b₂) (by omega),
      ofNat_eq_of_toNat (b := b₃) (by omega)]
    rfl
  rcases Nat.lt_or_ge b.toNat 0xF5 with h5 | h5
  · obtain ⟨b₂, b₃, b₄, rest, v, rfl, h₂, h₃, h₄, hv, hlong, hvalid, h⟩ :=
      (decodeFrom_four_ok_iff h4 h5).1 h
    unfold IsLater at h₂ h₃ h₄
    refine ⟨_, rest, _, ?_, h⟩
    rw [encode_ofNat hvalid, if_neg (by omega), if_neg (by omega), if_neg (by omega),
      ofNat_eq_of_toNat (b := b) (by omega), ofNat_eq_of_toNat (b := b₂) (by omega),
      ofNat_eq_of_toNat (b := b₃) (by omega), ofNat_eq_of_toNat (b := b₄) (by omega)]
    rfl
  · rw [decodeFrom, begin?_none h1 (.inr h5)] at h
    cases h

/-- A byte keeps a value that fits. -/
theorem toNat_byte {n : Nat} (h : n < 256) : (UInt8.ofNat n).toNat = n :=
  UInt8.toNat_ofNat_of_lt' h

/-- A later byte holds six bits. -/
theorem toNat_later (n : Nat) : (UInt8.ofNat (n % 64 + 128)).toNat = n % 64 + 128 :=
  toNat_byte (by omega)

theorem isLater_later (n : Nat) : IsLater (UInt8.ofNat (n % 64 + 128)) := by
  rw [IsLater, toNat_later]
  omega

/-- The bytes of a character are read as the character. -/
theorem decodeFrom_encode {c : Char} {rest : List UInt8}
    (h : ∀ position, decodeFrom position (c :: done) none rest = .ok s) :
    decodeFrom position done none (String.utf8EncodeChar c ++ rest) = .ok s := by
  obtain ⟨v, hvalid, rfl⟩ : ∃ v, v.isValidChar ∧ Char.ofNat v = c :=
    ⟨c.toNat, c.valid, c.ofNat_toNat⟩
  have hlt : v < 0x110000 := by
    unfold Nat.isValidChar at hvalid
    omega
  rw [encode_ofNat hvalid]
  split
  · have hb : (UInt8.ofNat v).toNat = v := toNat_byte (by omega)
    rw [List.cons_append, decodeFrom_one (by omega), hb]
    exact h _
  split
  · have hb : (UInt8.ofNat (v / 64 % 32 + 192)).toNat = v / 64 % 32 + 192 := toNat_byte (by omega)
    refine (decodeFrom_two_ok_iff (by omega) (by omega)).2 ⟨_, _, rfl, isLater_later _, ?_⟩
    have hv : 0x40 * (v / 64 % 32 + 192 - 0xC0) + (v % 64 + 128 - 0x80) = v := by omega
    rw [hb, toNat_later, hv]
    exact h _
  split
  · have hb : (UInt8.ofNat (v / 4096 % 16 + 224)).toNat = v / 4096 % 16 + 224 :=
      toNat_byte (by omega)
    refine (decodeFrom_three_ok_iff (by omega) (by omega)).2
      ⟨_, _, _, v, rfl, isLater_later _, isLater_later _, ?_, by omega, hvalid, h _⟩
    rw [hb, toNat_later, toNat_later]
    omega
  · have hb : (UInt8.ofNat (v / 262144 % 8 + 240)).toNat = v / 262144 % 8 + 240 :=
      toNat_byte (by omega)
    refine (decodeFrom_four_ok_iff (by omega) (by omega)).2
      ⟨_, _, _, _, v, rfl, isLater_later _, isLater_later _, isLater_later _, ?_, by omega, hvalid,
        h _⟩
    rw [hb, toNat_later, toNat_later, toNat_later]
    omega

/-! ## Texts -/

/-- The bytes of a text are read as the text. -/
theorem decodeFrom_flatMap_encode (s : List Char) :
    ∀ position done, decodeFrom position done none (s.flatMap String.utf8EncodeChar) =
      .ok (done.reverse ++ s) := by
  induction s with
  | nil => intros; simp [decodeFrom]
  | cons c s ih =>
    intro position done
    rw [List.flatMap_cons]
    refine decodeFrom_encode fun position => ?_
    rw [ih, List.reverse_cons, List.append_assoc, List.singleton_append]

/-- Bytes that are read as a text are those of the text. The induction is on the number of bytes: a
character takes at least one. -/
theorem exists_flatMap_encode_of_ok (n : Nat) :
    ∀ {bytes : List UInt8} {position : Nat} {done s : List Char}, bytes.length ≤ n →
      decodeFrom position done none bytes = .ok s →
      ∃ t, s = done.reverse ++ t ∧ bytes = t.flatMap String.utf8EncodeChar := by
  induction n with
  | zero =>
    intro bytes position done s hn h
    obtain rfl := List.length_eq_zero_iff.1 (Nat.le_zero.1 hn)
    cases h
    exact ⟨[], (List.append_nil _).symm, rfl⟩
  | succ n ih =>
    rintro (_ | ⟨b, r⟩) position done s hn h
    · cases h
      exact ⟨[], (List.append_nil _).symm, rfl⟩
    obtain ⟨c, rest, position', hbytes, hrest⟩ := exists_encode_of_ok h
    have hlen : rest.length ≤ n := by
      have hc : 0 < (String.utf8EncodeChar c).length := by
        rw [String.length_utf8EncodeChar]
        exact c.utf8Size_pos
      have := congrArg List.length hbytes
      simp only [List.length_append, List.length_cons] at this hn
      omega
    obtain ⟨t, rfl, rfl⟩ := ih hlen hrest
    exact ⟨c :: t, by simp, by rw [hbytes, List.flatMap_cons]⟩

theorem toUTF8_data (s : List Char) :
    (String.ofList s).toUTF8.data.toList = s.flatMap String.utf8EncodeChar := by
  simp [String.toByteArray_ofList, List.utf8Encode]

/-- Bytes are decoded into a text exactly if they are its encoding. -/
theorem decode_ok_iff {bytes : ByteArray} {s : List Char} :
    decode bytes = .ok s ↔ (String.ofList s).toUTF8 = bytes := by
  constructor
  · intro h
    obtain ⟨t, rfl, ht⟩ := exists_flatMap_encode_of_ok _ (Nat.le_refl _) h
    apply ByteArray.ext
    apply Array.toList_inj.1
    exact (toUTF8_data _).trans ht.symm
  · rintro rfl
    rw [decode, toUTF8_data, decodeFrom_flatMap_encode]
    rfl

theorem decode_toUTF8 (text : String) : decode text.toUTF8 = .ok text.toList := by
  rw [decode_ok_iff, String.ofList_toList]

/-- The bytes of a text are read as the text, every line ended by a line feed. -/
theorem ofBytes_toUTF8 (text : String) :
    ofBytes text.toUTF8 = .ok (String.ofList (unifyNewlines text.toList)) := by
  rw [ofBytes, decode_toUTF8]
  rfl

end RowDecl.Text
