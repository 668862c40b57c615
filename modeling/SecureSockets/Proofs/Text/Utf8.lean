import SecureSockets.Text.Utf8

namespace SecureSockets.Text.Utf8

/-!
# Reading back what was written

A text that is written as bytes is read back as it was, no other bytes are read as that
text, and bytes that can be read strictly are read leniently with the same result.  The
reader works byte by byte with a character that has begun, so its behaviour is described for
a byte that begins a character, for one that continues it, and for one that completes it; the
four lengths of a character are then chains of such steps.

Bounds on the second byte depend on the first one alone.  They leave out exactly what would
be overlong, a surrogate, or too large, so no character meets them.
-/

variable {rest : List UInt8}

/-! ## Single bytes -/

theorem toNat_ofNat {n : Nat} (bound : n < 256) : (UInt8.ofNat n).toNat = n := by
  rw [UInt8.toNat_ofNat']
  exact Nat.mod_eq_of_lt bound

/-- The first byte of a character with `n` in its leading bits and one more byte. -/
theorem begin_two {n : Nat} (lower : 2 ≤ n) (upper : n < 32) :
    begin (n + 0xC0) = .pending ⟨1, n, 0, 0x80, 0xBF⟩ := by
  unfold begin
  rw [if_neg (by omega), if_neg (by omega), if_pos (by omega), Nat.add_sub_cancel]

theorem begin_three {n : Nat} (upper : n < 16) :
    begin (n + 0xE0) = .pending
      ⟨1, n, 1, if n = 0 then 0xA0 else 0x80, if n = 13 then 0x9F else 0xBF⟩ := by
  unfold begin
  rw [if_neg (by omega), if_neg (by omega), if_neg (by omega)]
  by_cases least : n = 0
  · subst n
    rfl
  · by_cases surrogates : n = 13
    · subst n
      rfl
    · rw [if_neg (by omega), if_neg (by omega), if_pos (by omega), if_neg least,
        if_neg surrogates, Nat.add_sub_cancel]

theorem begin_four {n : Nat} (upper : n < 5) :
    begin (n + 0xF0) = .pending
      ⟨1, n, 2, if n = 0 then 0x90 else 0x80, if n = 4 then 0x8F else 0xBF⟩ := by
  unfold begin
  rw [if_neg (by omega), if_neg (by omega), if_neg (by omega), if_neg (by omega),
    if_neg (by omega), if_neg (by omega)]
  by_cases least : n = 0
  · subst n
    rfl
  · by_cases greatest : n = 4
    · subst n
      rfl
    · rw [if_neg (by omega), if_pos (by omega), if_neg least, if_neg greatest,
        Nat.add_sub_cancel]

theorem piecesFrom_complete {n : Nat} (bound : n < 0x80) :
    piecesFrom none (UInt8.ofNat n :: rest) = .char (Char.ofNat n) :: piecesFrom none rest := by
  have begins : begin (UInt8.ofNat n).toNat = .complete (Char.ofNat n) := by
    rw [toNat_ofNat (by omega), begin, if_pos bound]
  simp only [piecesFrom, feed, startAt, begins, List.cons_append, List.nil_append]

theorem piecesFrom_begin {n : Nat} {p : Pending} (bound : n < 256)
    (begins : begin n = .pending p) :
    piecesFrom none (UInt8.ofNat n :: rest) = piecesFrom (some p) rest := by
  simp only [piecesFrom, feed, startAt, toNat_ofNat bound, begins, List.nil_append]

/-- A byte within the bounds carries six more bits of the character that has begun. -/
theorem piecesFrom_continue {size value owed low high bits : Nat} (small : bits < 64)
    (lower : low ≤ bits + 0x80) (upper : bits + 0x80 ≤ high) :
    piecesFrom (some ⟨size, value, owed + 1, low, high⟩) (UInt8.ofNat (bits + 0x80) :: rest) =
      piecesFrom (some ⟨size + 1, value * 64 + bits, owed, 0x80, 0xBF⟩) rest := by
  simp only [piecesFrom, feed, toNat_ofNat (show bits + 0x80 < 256 by omega),
    if_pos (And.intro lower upper), Nat.add_sub_cancel, List.nil_append]

theorem piecesFrom_finish {size value low high bits : Nat} (small : bits < 64)
    (lower : low ≤ bits + 0x80) (upper : bits + 0x80 ≤ high) :
    piecesFrom (some ⟨size, value, 0, low, high⟩) (UInt8.ofNat (bits + 0x80) :: rest) =
      .char (Char.ofNat (value * 64 + bits)) :: piecesFrom none rest := by
  simp only [piecesFrom, feed, toNat_ofNat (show bits + 0x80 < 256 by omega),
    if_pos (And.intro lower upper), Nat.add_sub_cancel, List.cons_append, List.nil_append]

/-! ## Characters -/

/-- The bytes of a character are read as that character, whatever comes behind them. -/
theorem piecesFrom_encodeChar (c : Char) :
    piecesFrom none (String.utf8EncodeChar c ++ rest) = .char c :: piecesFrom none rest := by
  have valid : c.toNat < 0xD800 ∨ 0xDFFF < c.toNat ∧ c.toNat < 0x110000 := c.valid
  have last : c.toNat % 0x40 < 64 := Nat.mod_lt _ (by decide)
  have middle : c.toNat / 64 % 0x40 < 64 := Nat.mod_lt _ (by decide)
  have whole {n : Nat} (same : n = c.toNat) : Char.ofNat n = c := by
    rw [same, Char.ofNat_toNat]
  have code : c.val.toNat = c.toNat := rfl
  unfold String.utf8EncodeChar
  simp only [code]
  split
  · next one =>
      rw [List.singleton_append, piecesFrom_complete (by omega), whole rfl]
  · split
    · next two =>
        have begins := begin_two (n := c.toNat / 64 % 0x20) (by omega) (by omega)
        simp only [List.cons_append, List.nil_append]
        rw [piecesFrom_begin (by omega) begins, piecesFrom_finish last (by omega) (by omega),
          whole (by omega)]
    · split
      · next three =>
          have begins := begin_three (n := c.toNat / 4096 % 0x10) (by omega)
          simp only [List.cons_append, List.nil_append]
          rw [piecesFrom_begin (by omega) begins,
            piecesFrom_continue middle (by split <;> omega) (by split <;> omega),
            piecesFrom_finish last (by omega) (by omega), whole (by omega)]
      · next four =>
          have begins := begin_four (n := c.toNat / 262144 % 0x08) (by omega)
          have upper : c.toNat / 4096 % 0x40 < 64 := Nat.mod_lt _ (by decide)
          simp only [List.cons_append, List.nil_append]
          rw [piecesFrom_begin (by omega) begins,
            piecesFrom_continue upper (by split <;> omega) (by split <;> omega),
            piecesFrom_continue middle (by omega) (by omega),
            piecesFrom_finish last (by omega) (by omega), whole (by omega)]

/-! ## Texts -/

theorem pieces_encode (text : List Char) : pieces (encode text) = text.map .char := by
  induction text with
  | nil => rfl
  | cons c rest ih =>
      have first : encode (c :: rest) = String.utf8EncodeChar c ++ encode rest := rfl
      rw [first, pieces, piecesFrom_encodeChar, List.map_cons, ← ih]
      rfl

theorem charsOf_eq_ok_iff {index : Nat} {found : List Piece} {text : List Char} :
    charsOf index found = .ok text ↔ found = text.map .char := by
  induction found generalizing index text with
  | nil => cases text <;> simp [charsOf]
  | cons piece others ih =>
      cases piece with
      | char c =>
          cases text with
          | nil =>
              cases read : charsOf (index + c.utf8Size) others <;>
                simp [charsOf, read, Except.map]
          | cons d text =>
              simp only [charsOf, List.map_cons, List.cons.injEq, Piece.char.injEq,
                ← @ih (index + c.utf8Size)]
              cases charsOf (index + c.utf8Size) others <;> simp [Except.map]
      | invalid size => cases text <;> simp [charsOf]
      | incomplete size => cases text <;> simp [charsOf]

/-- Bytes are UTF-8 if they consist of characters and nothing else. -/
theorem decode_eq_ok_iff {bytes : List UInt8} {text : List Char} :
    decode bytes = .ok text ↔ pieces bytes = text.map .char :=
  charsOf_eq_ok_iff

theorem decode_encode (text : List Char) : decode (encode text) = .ok text :=
  decode_eq_ok_iff.mpr (pieces_encode text)

/-- Nothing is replaced in bytes that can be read strictly. -/
theorem decodeLossy_of_decode {bytes : List UInt8} {text : List Char}
    (decoded : decode bytes = .ok text) : decodeLossy bytes = text := by
  rw [decodeLossy, decode_eq_ok_iff.mp decoded, List.map_map]
  exact List.map_id text

theorem encode_of_ascii {text : List Char} (ascii : ∀ c ∈ text, c.toNat < 128) :
    encode text = text.map fun c => UInt8.ofNat c.toNat := by
  induction text with
  | nil => rfl
  | cons c rest ih =>
      have parts := List.forall_mem_cons.mp ascii
      have short : String.utf8EncodeChar c = [UInt8.ofNat c.toNat] :=
        if_pos (Nat.le_of_lt_succ parts.1)
      rw [List.map_cons, ← ih parts.2, encode, List.flatMap_cons, short]
      rfl

theorem toNat_ofNat_of_valid {code : Nat} (valid : code.isValidChar) :
    (Char.ofNat code).toNat = code := by
  rw [Char.ofNat, dif_pos valid]
  rfl

/-! ## Nothing else is read -/

/-- What a byte begins, told by the bits that it carries. -/
theorem begin_cases (n : Nat) :
    (n < 0x80 ∧ begin n = .complete (Char.ofNat n)) ∨
    (∃ a, n = a + 0xC0 ∧ 2 ≤ a ∧ a < 32 ∧ begin n = .pending ⟨1, a, 0, 0x80, 0xBF⟩) ∨
    (∃ a, n = a + 0xE0 ∧ a < 16 ∧ begin n = .pending
      ⟨1, a, 1, if a = 0 then 0xA0 else 0x80, if a = 13 then 0x9F else 0xBF⟩) ∨
    (∃ a, n = a + 0xF0 ∧ a < 5 ∧ begin n = .pending
      ⟨1, a, 2, if a = 0 then 0x90 else 0x80, if a = 4 then 0x8F else 0xBF⟩) ∨
    begin n = .invalid := by
  by_cases one : n < 0x80
  · exact Or.inl ⟨one, if_pos one⟩
  by_cases stray : n < 0xC2
  · have invalid : begin n = .invalid := by rw [begin, if_neg one, if_pos stray]
    exact Or.inr (Or.inr (Or.inr (Or.inr invalid)))
  by_cases two : n < 0xE0
  · obtain ⟨a, rfl⟩ : ∃ a, n = a + 0xC0 := ⟨n - 0xC0, by omega⟩
    exact Or.inr (Or.inl ⟨a, rfl, by omega, by omega, begin_two (by omega) (by omega)⟩)
  by_cases three : n < 0xF0
  · obtain ⟨a, rfl⟩ : ∃ a, n = a + 0xE0 := ⟨n - 0xE0, by omega⟩
    exact Or.inr (Or.inr (Or.inl ⟨a, rfl, by omega, begin_three (by omega)⟩))
  by_cases four : n < 0xF5
  · obtain ⟨a, rfl⟩ : ∃ a, n = a + 0xF0 := ⟨n - 0xF0, by omega⟩
    exact Or.inr (Or.inr (Or.inr (Or.inl ⟨a, rfl, by omega, begin_four (by omega)⟩)))
  · have invalid : begin n = .invalid := by
      unfold begin
      iterate 9 rw [if_neg (by omega)]
    exact Or.inr (Or.inr (Or.inr (Or.inr invalid)))

theorem encodeChar_one {a : Nat} (upper : a < 0x80) :
    String.utf8EncodeChar (Char.ofNat a) = [UInt8.ofNat a] := by
  have code : (Char.ofNat a).val.toNat = a := toNat_ofNat_of_valid (Or.inl (by omega))
  unfold String.utf8EncodeChar
  simp only [code]
  exact if_pos (by omega)

theorem encodeChar_two {a b : Nat} (lower : 2 ≤ a) (upper : a < 32) (small : b < 64) :
    String.utf8EncodeChar (Char.ofNat (a * 64 + b)) =
      [UInt8.ofNat (a + 0xC0), UInt8.ofNat (b + 0x80)] := by
  have code : (Char.ofNat (a * 64 + b)).val.toNat = a * 64 + b :=
    toNat_ofNat_of_valid (Or.inl (by omega))
  have first : (a * 64 + b) / 64 % 32 = a := by omega
  have last : (a * 64 + b) % 64 = b := by omega
  unfold String.utf8EncodeChar
  simp only [code]
  rw [if_neg (by omega), if_pos (by omega), first, last]

theorem encodeChar_three {a b d : Nat} (upper : a < 16) (small : b < 64) (small' : d < 64)
    (least : a = 0 -> 32 ≤ b) (surrogates : a = 13 -> b < 32) :
    String.utf8EncodeChar (Char.ofNat ((a * 64 + b) * 64 + d)) =
      [UInt8.ofNat (a + 0xE0), UInt8.ofNat (b + 0x80), UInt8.ofNat (d + 0x80)] := by
  have valid : ((a * 64 + b) * 64 + d).isValidChar := by
    unfold Nat.isValidChar
    omega
  have code : (Char.ofNat ((a * 64 + b) * 64 + d)).val.toNat = (a * 64 + b) * 64 + d :=
    toNat_ofNat_of_valid valid
  have first : ((a * 64 + b) * 64 + d) / 4096 % 16 = a := by omega
  have middle : ((a * 64 + b) * 64 + d) / 64 % 64 = b := by omega
  have last : ((a * 64 + b) * 64 + d) % 64 = d := by omega
  unfold String.utf8EncodeChar
  simp only [code]
  rw [if_neg (by omega), if_neg (by omega), if_pos (by omega), first, middle, last]

theorem encodeChar_four {a b d e : Nat} (upper : a < 5) (small : b < 64) (small' : d < 64)
    (small'' : e < 64) (least : a = 0 -> 16 ≤ b) (greatest : a = 4 -> b < 16) :
    String.utf8EncodeChar (Char.ofNat (((a * 64 + b) * 64 + d) * 64 + e)) =
      [UInt8.ofNat (a + 0xF0), UInt8.ofNat (b + 0x80), UInt8.ofNat (d + 0x80),
        UInt8.ofNat (e + 0x80)] := by
  have valid : (((a * 64 + b) * 64 + d) * 64 + e).isValidChar := by
    unfold Nat.isValidChar
    omega
  have code : (Char.ofNat (((a * 64 + b) * 64 + d) * 64 + e)).val.toNat =
      ((a * 64 + b) * 64 + d) * 64 + e := toNat_ofNat_of_valid valid
  have first : (((a * 64 + b) * 64 + d) * 64 + e) / 262144 % 8 = a := by omega
  have second : (((a * 64 + b) * 64 + d) * 64 + e) / 4096 % 64 = b := by omega
  have third : (((a * 64 + b) * 64 + d) * 64 + e) / 64 % 64 = d := by omega
  have last : (((a * 64 + b) * 64 + d) * 64 + e) % 64 = e := by omega
  unfold String.utf8EncodeChar
  simp only [code]
  rw [if_neg (by omega), if_neg (by omega), if_neg (by omega), first, second, third, last]

section Exact

variable {bytes : List UInt8} {found : List Piece} {c : Char} {p : Pending}

/-- A character that has begun shows, whether it is completed or not. -/
theorem piecesFrom_begun_ne_nil (p : Pending) (bytes : List UInt8) :
    piecesFrom (some p) bytes ≠ [] := by
  induction bytes generalizing p with
  | nil => exact List.cons_ne_nil _ _
  | cons byte rest ih =>
      unfold piecesFrom feed
      dsimp only
      split
      · split
        · exact List.cons_ne_nil _ _
        · exact ih _
      · exact List.cons_ne_nil _ _

/-- A character that has begun is read on only through a byte within the bounds. -/
theorem exists_continuation {size value owed low high : Nat} (lower : 0x80 ≤ low)
    (reads : piecesFrom (some ⟨size, value, owed, low, high⟩) bytes = .char c :: found) :
    ∃ bits rest, bytes = UInt8.ofNat (bits + 0x80) :: rest ∧
      low ≤ bits + 0x80 ∧ bits + 0x80 ≤ high ∧
      match owed with
      | 0 => c = Char.ofNat (value * 64 + bits) ∧ piecesFrom none rest = found
      | owed + 1 =>
        piecesFrom (some ⟨size + 1, value * 64 + bits, owed, 0x80, 0xBF⟩) rest =
          .char c :: found := by
  cases bytes with
  | nil => cases reads
  | cons byte rest =>
      unfold piecesFrom feed at reads
      dsimp only at reads
      split at reads
      · next bounds =>
          obtain ⟨bits, carries⟩ : ∃ bits, byte.toNat = bits + 0x80 := ⟨byte.toNat - 0x80, by omega⟩
          rw [carries] at bounds reads
          refine ⟨bits, rest, by rw [← carries, UInt8.ofNat_toNat], bounds.1, bounds.2, ?_⟩
          cases owed with
          | zero =>
              simp only [Nat.add_sub_cancel, List.cons_append, List.nil_append, List.cons.injEq,
                Piece.char.injEq] at reads
              exact ⟨reads.1.symm, reads.2⟩
          | succ owed =>
              simp only [Nat.add_sub_cancel, List.nil_append] at reads
              exact reads
      · cases reads

/-- What is read as a character are the bytes of that character. -/
theorem exists_encodeChar (reads : piecesFrom none bytes = .char c :: found) :
    ∃ rest, bytes = String.utf8EncodeChar c ++ rest ∧ piecesFrom none rest = found := by
  cases bytes with
  | nil => cases reads
  | cons byte rest =>
      have whole : UInt8.ofNat byte.toNat = byte := UInt8.ofNat_toNat
      simp only [piecesFrom, feed, startAt] at reads
      rcases begin_cases byte.toNat with
        ⟨one, begins⟩ | ⟨a, two, lower, upper, begins⟩ | ⟨a, three, upper, begins⟩ |
        ⟨a, four, upper, begins⟩ | begins
      all_goals
        simp only [begins, List.cons_append, List.nil_append, List.cons.injEq, Piece.char.injEq,
          reduceCtorEq, false_and] at reads
      · rcases reads with ⟨rfl, others⟩
        exact ⟨rest, by rw [encodeChar_one one, whole]; rfl, others⟩
      · rcases exists_continuation (Nat.le_refl _) reads with ⟨b, rest, rfl, -, high, rfl, others⟩
        refine ⟨rest, ?_, others⟩
        rw [encodeChar_two lower upper (by omega), ← two, whole]
        rfl
      · have within : 0x80 ≤ if a = 0 then 0xA0 else 0x80 := by split <;> decide
        rcases exists_continuation within reads with ⟨b, rest, rfl, low, high, more⟩
        rcases exists_continuation (Nat.le_refl _) more with ⟨d, rest, rfl, -, high', rfl, others⟩
        have small : b < 64 := by split at high <;> omega
        have least : a = 0 -> 32 ≤ b := fun zero => by rw [if_pos zero] at low; omega
        have surrogates : a = 13 -> b < 32 := fun same => by rw [if_pos same] at high; omega
        refine ⟨rest, ?_, others⟩
        rw [encodeChar_three upper small (by omega) least surrogates, ← three, whole]
        rfl
      · have within : 0x80 ≤ if a = 0 then 0x90 else 0x80 := by split <;> decide
        rcases exists_continuation within reads with ⟨b, rest, rfl, low, high, more⟩
        rcases exists_continuation (Nat.le_refl _) more with ⟨d, rest, rfl, -, high', more'⟩
        rcases exists_continuation (Nat.le_refl _) more' with ⟨e, rest, rfl, -, high'', rfl, others⟩
        have small : b < 64 := by split at high <;> omega
        have least : a = 0 -> 16 ≤ b := fun zero => by rw [if_pos zero] at low; omega
        have greatest : a = 4 -> b < 16 := fun same => by rw [if_pos same] at high; omega
        refine ⟨rest, ?_, others⟩
        rw [encodeChar_four upper small (by omega) (by omega) least greatest, ← four, whole]
        rfl

theorem piecesFrom_none_eq_nil_iff : piecesFrom none bytes = [] ↔ bytes = [] := by
  refine ⟨fun nothing => ?_, fun empty => by rw [empty]; rfl⟩
  cases bytes with
  | nil => rfl
  | cons byte rest =>
      simp only [piecesFrom, feed, startAt, List.append_eq_nil_iff] at nothing
      cases begins : begin byte.toNat with
      | complete c => simp [begins] at nothing
      | pending p =>
          rw [begins] at nothing
          exact absurd nothing.2 (piecesFrom_begun_ne_nil p rest)
      | invalid => simp [begins] at nothing

/-- Only the bytes of a text are read as that text. -/
theorem encode_of_pieces {text : List Char} (reads : pieces bytes = text.map .char) :
    encode text = bytes := by
  unfold pieces at reads
  induction text generalizing bytes with
  | nil => exact (piecesFrom_none_eq_nil_iff.mp reads).symm
  | cons c text ih =>
      rcases exists_encodeChar reads with ⟨rest, rfl, others⟩
      rw [← ih others]
      rfl

end Exact

/-- A text is read from its bytes and from no others. -/
theorem decode_iff_encode {bytes : List UInt8} {text : List Char} :
    decode bytes = .ok text ↔ encode text = bytes := by
  constructor
  · exact fun decoded => encode_of_pieces (decode_eq_ok_iff.mp decoded)
  · rintro rfl
    exact decode_encode text

/-- What cannot be read leaves its mark on a text that is read leniently. -/
theorem replacement_mem_decodeLossy {bytes : List UInt8} (foreign : ∀ text, encode text ≠ bytes) :
    replacement ∈ decodeLossy bytes := by
  refine Decidable.byContradiction fun unmarked => ?_
  refine foreign (decodeLossy bytes) (encode_of_pieces ?_)
  rw [decodeLossy, List.map_map]
  rw [decodeLossy] at unmarked
  refine (List.map_id _).symm.trans (List.map_congr_left fun piece member => ?_)
  cases piece with
  | char c => rfl
  | invalid size => exact absurd (List.mem_map.mpr ⟨_, member, rfl⟩) unmarked
  | incomplete size => exact absurd (List.mem_map.mpr ⟨_, member, rfl⟩) unmarked

end SecureSockets.Text.Utf8
