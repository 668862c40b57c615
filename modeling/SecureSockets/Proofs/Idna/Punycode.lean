import SecureSockets.Idna.Label

namespace SecureSockets.Idna

/-!
# Characters of encoded texts

What an encoded text consists of: the ASCII characters of the text, hyphens and digits, and
if the text is not ASCII there is a digit at the end.  The way back keeps the characters in
front of the last hyphen and reads nothing but digits behind it, so no character disappears
when a text is decoded, except for digits and hyphens.
-/

/-! ## Encoding -/

namespace Punycode

theorem threshold_le (position bias : Nat) : threshold position bias ≤ greatestThreshold := by
  unfold threshold leastThreshold greatestThreshold
  split
  · decide
  · split <;> omega

theorem mem_numberDigits {c : Char} {bias fuel position value : Nat}
    (member : c ∈ numberDigits bias fuel position value) : ∃ worth < base, c = digit worth := by
  induction fuel generalizing position value with
  | zero => cases member
  | succ fuel ih =>
      have bound : threshold position bias < base :=
        Nat.lt_of_le_of_lt (threshold_le position bias) (by decide)
      unfold numberDigits at member
      simp only at member
      split at member
      · next last =>
          exact ⟨value, Nat.lt_trans last bound, List.mem_singleton.mp member⟩
      · rcases List.mem_cons.mp member with rfl | later
        · refine ⟨_, ?_, rfl⟩
          have rest := Nat.mod_lt (value - threshold position bias) (Nat.sub_pos_of_lt bound)
          omega
        · exact ih later

theorem numberDigits_ne_nil (bias fuel position value : Nat) :
    numberDigits bias (fuel + 1) position value ≠ [] := by
  unfold numberDigits
  simp only
  split <;> exact List.cons_ne_nil _ _

namespace Encoder

variable {c : Char} {basicCount : Nat}

theorem mem_step_output {code : Nat} {e : Encoder} {next : Char}
    (member : c ∈ (e.step basicCount code next).output) :
    c ∈ e.output ∨ ∃ worth < base, c = digit worth := by
  unfold step at member
  split at member
  · exact Or.inl member
  · split at member
    · rcases List.mem_append.mp member with written | earlier
      · exact Or.inr (mem_numberDigits (List.mem_reverse.mp written))
      · exact Or.inl earlier
    · exact Or.inl member

theorem mem_foldl_output {code : Nat} {text : List Char} {e : Encoder}
    (member : c ∈ (text.foldl (step basicCount code) e).output) :
    c ∈ e.output ∨ ∃ worth < base, c = digit worth := by
  induction text generalizing e with
  | nil => exact Or.inl member
  | cons first rest ih =>
      rcases ih member with before | written
      · exact mem_step_output before
      · exact Or.inr written

theorem mem_run_output {text : List Char} {e : Encoder} {next : Nat} {codes : List Nat}
    (member : c ∈ (run text basicCount e next codes).output) :
    c ∈ e.output ∨ ∃ worth < base, c = digit worth := by
  induction codes generalizing e next with
  | nil => exact Or.inl member
  | cons code rest ih =>
      let moved := { e with delta := e.delta + (code - next) * (e.done + 1) }
      rcases ih member with before | written
      · exact mem_foldl_output (e := moved) before
      · exact Or.inr written

theorem step_output_ne_nil {code : Nat} {e : Encoder} {next : Char}
    (written : e.output ≠ [] ∨ next.toNat = code) : (e.step basicCount code next).output ≠ [] := by
  unfold step
  split
  · next below => exact written.resolve_right (Nat.ne_of_lt below)
  · split
    · have digits := numberDigits_ne_nil e.bias e.delta base e.delta
      exact List.append_ne_nil_of_left_ne_nil (mt List.reverse_eq_nil_iff.mp digits) _
    · next other => exact written.resolve_right other

theorem foldl_output_ne_nil {code : Nat} {text : List Char} {e : Encoder}
    (written : e.output ≠ [] ∨ ∃ c ∈ text, c.toNat = code) :
    (text.foldl (step basicCount code) e).output ≠ [] := by
  induction text generalizing e with
  | nil => exact written.resolve_right (by simp)
  | cons first rest ih =>
      apply ih
      rcases written with before | ⟨c, member, same⟩
      · exact Or.inl (step_output_ne_nil (Or.inl before))
      · rcases List.mem_cons.mp member with rfl | later
        · exact Or.inl (step_output_ne_nil (Or.inr same))
        · exact Or.inr ⟨c, later, same⟩

/-- Something is written for each character of which the code point is considered. -/
theorem run_output_ne_nil {text : List Char} {e : Encoder} {next : Nat} {codes : List Nat}
    (written : e.output ≠ [] ∨ ∃ c ∈ text, c.toNat ∈ codes) :
    (run text basicCount e next codes).output ≠ [] := by
  induction codes generalizing e next with
  | nil => exact written.resolve_right (by simp)
  | cons code rest ih =>
      let moved := { e with delta := e.delta + (code - next) * (e.done + 1) }
      apply ih
      rcases written with before | ⟨c, member, listed⟩
      · exact Or.inl (foldl_output_ne_nil (e := moved) (Or.inl before))
      · rcases List.mem_cons.mp listed with same | later
        · exact Or.inl (foldl_output_ne_nil (e := moved) (Or.inr ⟨c, member, same⟩))
        · exact Or.inr ⟨c, member, later⟩

end Encoder

theorem mem_encode {c : Char} {text : List Char} (member : c ∈ encode text) :
    (c ∈ text ∧ c.toNat < 128) ∨ c = '-' ∨ ∃ worth < base, c = digit worth := by
  unfold encode at member
  simp only at member
  rcases List.mem_append.mp member with front | back
  · split at front
    · cases front
    · rcases List.mem_append.mp front with basic | hyphen
      · have kept := List.mem_filter.mp basic
        exact Or.inl ⟨kept.1, of_decide_eq_true kept.2⟩
      · exact Or.inr (Or.inl (List.mem_singleton.mp hyphen))
  · rcases Encoder.mem_run_output (List.mem_reverse.mp back) with start | written
    · cases start
    · exact Or.inr (Or.inr written)

theorem digit_plain :
    ∀ worth < base, (digit worth).toNat < 128 ∧ (digit worth).isAlphanum = true := by
  decide

theorem encode_isAscii (text : List Char) : isAscii (encode text) = true := by
  apply List.all_eq_true.mpr
  intro c member
  apply decide_eq_true
  rcases mem_encode member with ⟨-, ascii⟩ | rfl | ⟨worth, bound, rfl⟩
  · exact ascii
  · decide
  · exact (digit_plain worth bound).1

theorem mem_extendedCodes {c : Char} {text : List Char} (member : c ∈ text)
    (extended : initialCode ≤ c.toNat) : c.toNat ∈ extendedCodes text := by
  rw [extendedCodes, List.mem_eraseDups, List.mem_mergeSort, List.mem_filter]
  exact ⟨List.mem_map_of_mem member, decide_eq_true extended⟩

/-- The encoding of a text that is not ASCII ends in a digit. -/
theorem getLast?_encode {text : List Char} (notAscii : isAscii text = false) :
    ∃ worth < base, (encode text).getLast? = some (digit worth) := by
  rcases List.all_eq_false.mp notAscii with ⟨c, member, beyond⟩
  have extended : initialCode ≤ c.toNat := Nat.not_lt.mp (mt decide_eq_true beyond)
  unfold encode
  simp only
  generalize text.filter _ = basic
  let start : Encoder := { delta := 0, bias := initialBias, done := basic.length, output := [] }
  have filled : (start.run text basic.length initialCode (extendedCodes text)).output ≠ [] :=
    Encoder.run_output_ne_nil (Or.inr ⟨c, member, mem_extendedCodes member extended⟩)
  cases written : (start.run text basic.length initialCode (extendedCodes text)).output with
  | nil => exact absurd written filled
  | cons last others =>
      have within : last ∈ (start.run text basic.length initialCode (extendedCodes text)).output :=
        written ▸ List.mem_cons_self
      rcases Encoder.mem_run_output within with before | ⟨worth, bound, same⟩
      · cases before
      · refine ⟨worth, bound, ?_⟩
        rw [List.reverse_cons, ← List.append_assoc, List.getLast?_concat, same]

/-! ## Decoding -/

theorem splitLastHyphen_eq {text basic digits : List Char}
    (split : splitLastHyphen text = some (basic, digits)) : text = basic ++ '-' :: digits := by
  unfold splitLastHyphen at split
  simp only at split
  have whole := List.takeWhile_append_dropWhile (p := (· != '-')) (l := text.reverse)
  split at split
  · cases split
  · next hyphen before dropped =>
      have isHyphen : hyphen = '-' := by
        have stopped := List.head?_dropWhile_not (· != '-') text.reverse
        rw [dropped] at stopped
        simpa using stopped
      cases split
      rw [dropped, isHyphen] at whole
      have reversed := congrArg List.reverse whole
      simpa using reversed.symm

namespace Decoder

theorem mem_insert {d next : Decoder} {total : Nat} {c : Char} (member : c ∈ d.text)
    (inserted : d.insert total = some next) : c ∈ next.text := by
  unfold insert at inserted
  rcases Option.map_eq_some_iff.mp inserted with ⟨new, -, rfl⟩
  rw [← List.take_append_drop (total % (d.text.length + 1)) d.text] at member
  rcases List.mem_append.mp member with front | back
  · exact List.mem_append_left _ front
  · exact List.mem_append_right _ (List.mem_cons_of_mem _ back)

theorem mem_step {d next : Decoder} {value : Nat} {c : Char} (member : c ∈ d.text)
    (stepped : d.step value = some next) : c ∈ next.text := by
  unfold step at stepped
  simp only at stepped
  split at stepped
  · cases stepped
  · split at stepped
    · exact mem_insert member stepped
    · split at stepped
      · cases stepped
      · cases stepped
        exact member

/-- Reading digits keeps the text, and nothing but digits can be read. -/
theorem run_keeps {digits result : List Char} {d : Decoder} (read : d.run digits = some result)
    {c : Char} : (c ∈ d.text -> c ∈ result) ∧ (c ∈ digits -> digitValue c ≠ none) := by
  induction digits generalizing d with
  | nil =>
      unfold run at read
      split at read
      · cases read
        exact ⟨id, nofun⟩
      · cases read
  | cons first rest ih =>
      unfold run at read
      split at read
      · next next stepped =>
          rcases Option.bind_eq_some_iff.mp stepped with ⟨value, isDigit, step⟩
          have later := ih read
          refine ⟨fun member => later.1 (mem_step member step), fun member => ?_⟩
          rcases List.mem_cons.mp member with rfl | within
          · exact isDigit ▸ nofun
          · exact later.2 within
      · cases read

end Decoder

/-- Whatever is neither a digit nor a hyphen is still there after decoding. -/
theorem mem_of_decode {text result : List Char} (decoded : decode text = some result) {c : Char}
    (member : c ∈ text) (noDigit : digitValue c = none) (noHyphen : c ≠ '-') :
    c.toLower ∈ result := by
  unfold decode at decoded
  split at decoded
  · exact absurd noDigit ((Decoder.run_keeps decoded).2 member)
  · cases decoded
  · next basic digits _ split =>
      split at decoded
      · have keeps := @Decoder.run_keeps _ _ _ decoded
        rw [splitLastHyphen_eq split] at member
        rcases List.mem_append.mp member with front | back
        · exact keeps.1 (List.mem_map_of_mem front)
        · rcases List.mem_cons.mp back with hyphen | digit
          · exact absurd hyphen noHyphen
          · exact absurd noDigit (keeps.2 digit)
      · cases decoded

end Punycode

end SecureSockets.Idna
