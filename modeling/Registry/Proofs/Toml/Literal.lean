import Mathlib.Data.List.Basic
import Registry.Toml.Literal

/-! # String literals that read back

Every text is read back from the literal it is written as, in whichever of the four forms, as long
as no quote follows the literal.
-/

namespace Registry.Toml.Literal

theorem numbered?_of_lt : ∀ n < 128,
    numbered? ['0', '0', Text.hexDigit 'A' (n / 16), Text.hexDigit 'A' (n % 16)] =
      some (Char.ofNat n) := by
  decide

theorem numbered?_control {c : Char} (control : isPlain c = false) :
    numbered? ['0', '0', Text.hexDigit 'A' (c.toNat / 16), Text.hexDigit 'A' (c.toNat % 16)] =
      some c := by
  have small : c.toNat < 128 := by
    simp only [isPlain, Bool.or_eq_false_iff, Bool.and_eq_false_iff, decide_eq_false_iff_not]
      at control
    omega
  rw [numbered?_of_lt _ small, Char.ofNat_toNat]

/-- A character that is written by its number comes before what is read behind it. -/
theorem bind_numbered?_control {c : Char} (control : isPlain c = false)
    (behind : Option (List Char × List Char)) :
    (numbered? ['0', '0', Text.hexDigit 'A' (c.toNat / 16),
      Text.hexDigit 'A' (c.toNat % 16)]).bind (prepend · behind) = prepend c behind := by
  rw [numbered?_control control]
  rfl

/-- What a character is escaped as does not start with a quote or a line end. -/
theorem head_escape {c d : Char} {cs rest : List Char} (notQuote : c ≠ '"') (notLine : c ≠ '\n')
    (starts : escape c ++ rest = d :: cs) : d ≠ '"' ∧ d ≠ '\n' ∧ d ≠ '\r' := by
  unfold escape at starts
  split at starts
  · cases starts; decide
  · cases starts; decide
  · cases starts; decide
  · cases starts; decide
  · cases starts; decide
  · rename_i notReturn _
    split at starts
    · cases starts
      exact ⟨notQuote, notLine, notReturn⟩
    · cases starts; decide

theorem basicLine_plain {c : Char} (notQuote : c ≠ '"') (notBackslash : c ≠ '\\')
    (plain : isPlain c = true) (rest : List Char) :
    basicLine (c :: rest) = prepend c (basicLine rest) := by
  rw [basicLine, if_pos plain]
  · exact notQuote
  · exact fun _ _ _ _ _ same => absurd same notBackslash
  · exact fun _ _ _ _ _ _ _ _ _ same => absurd same notBackslash
  · exact fun _ _ same => absurd same notBackslash

theorem basicLine_escape {c : Char} (notQuote : c ≠ '"') (rest : List Char) :
    basicLine (escape c ++ rest) = prepend c (basicLine rest) := by
  unfold escape
  split
  · rfl
  · rfl
  · rfl
  · rfl
  · rfl
  · rename_i notBackslash
    split
    · rename_i plain
      exact basicLine_plain notQuote notBackslash plain rest
    · rename_i control
      exact bind_numbered?_control (by simpa using control) (basicLine rest)

theorem basicLine_lineBody (text rest : List Char) :
    basicLine (lineBody text ++ '"' :: rest) = some (text, rest) := by
  induction text with
  | nil => rfl
  | cons c text ih =>
      unfold lineBody
      split
      · contradiction
      · rename_i quoted
        cases quoted
        calc _ = prepend '"' (basicLine (lineBody text ++ '"' :: rest)) := rfl
          _ = _ := by rw [ih]; rfl
      · rename_i ended
        cases ended
        calc _ = prepend '\n' (basicLine (lineBody text ++ '"' :: rest)) := rfl
          _ = _ := by rw [ih]; rfl
      · rename_i notQuote _ same
        cases same
        rw [List.append_assoc, basicLine_escape fun same => notQuote (by rw [same]), ih]
        rfl

theorem literalLine_text {text : List Char} (plain : ∀ c ∈ text, c ≠ '\'' ∧ isPlain c = true)
    (rest : List Char) : literalLine (text ++ '\'' :: rest) = some (text, rest) := by
  induction text with
  | nil => rfl
  | cons c text ih =>
      obtain ⟨notQuote, isPlain⟩ := plain c List.mem_cons_self
      rw [List.cons_append, literalLine, if_neg notQuote, if_pos isPlain,
        ih fun c member => plain c (List.mem_cons_of_mem _ member)]
      rfl

/-! ## Blocks -/

/-- Up to two quotes right before the closing ones belong to the text. -/
theorem closing_quotes {quote : Char} {n : Nat} {rest : List Char} (few : n ≤ 2)
    (noQuote : rest.head? ≠ some quote) :
    closing quote (List.replicate n quote ++ rest) = (List.replicate n quote, rest) := by
  have ended : (rest.take 2).takeWhile (· = quote) = [] ∧
      (rest.take 1).takeWhile (· = quote) = [] := by
    cases rest with
    | nil => simp
    | cons c rest =>
      have : c ≠ quote := by simpa using noQuote
      simp [this]
  match n, few with
  | 0, _ => simp [closing, ended]
  | 1, _ => simp [closing, ended]
  | 2, _ => simp [closing]

/-- The first of less than three quotes in a row is part of the text. -/
theorem basicBlock_quote {rest : List Char} (single : ∀ more, rest ≠ '"' :: '"' :: more) :
    basicBlock false ('"' :: rest) = prepend '"' (basicBlock false rest) := by
  rw [basicBlock]
  · rfl
  all_goals simp
  exact single

theorem basicBlock_plain {c : Char} (notQuote : c ≠ '"') (notLine : c ≠ '\n')
    (notReturn : c ≠ '\r') (notBackslash : c ≠ '\\') (plain : isPlain c = true)
    (rest : List Char) : basicBlock false (c :: rest) = prepend c (basicBlock false rest) := by
  rw [basicBlock]
  · simp [plain]
  all_goals simp [*]

theorem basicBlock_escape {c : Char} (notQuote : c ≠ '"') (notLine : c ≠ '\n') (rest : List Char) :
    basicBlock false (escape c ++ rest) = prepend c (basicBlock false rest) := by
  unfold escape
  split
  · rfl
  · rfl
  · rfl
  · rfl
  · rfl
  · rename_i notReturn notBackslash
    split
    · rename_i plain
      exact basicBlock_plain notQuote notLine notReturn notBackslash plain rest
    · rename_i control
      exact bind_numbered?_control (by simpa using control) (basicBlock false rest)

theorem blockBody_cons (quotes : Nat) {c : Char} (notQuote : c ≠ '"') (notLine : c ≠ '\n')
    (text : List Char) : blockBody quotes (c :: text) = escape c ++ blockBody 0 text := by
  rw [blockBody]
  · exact notQuote
  · exact notLine

/-- A block starts with a quote only where the text does and the quote is not escaped. -/
theorem starts_with_quote {quotes : Nat} {c : Char} {text tail more : List Char}
    (starts : blockBody quotes (c :: text) ++ tail = '"' :: more) :
    quotes ≠ 2 ∧ c = '"' ∧ blockBody (quotes + 1) text ++ tail = more := by
  by_cases quoted : c = '"'
  · subst quoted
    by_cases third : quotes = 2
    · rw [blockBody, if_pos third] at starts
      simp at starts
    · rw [blockBody, if_neg third] at starts
      exact ⟨third, rfl, List.tail_eq_of_cons_eq starts⟩
  by_cases ended : c = '\n'
  · subst ended
    simp [blockBody] at starts
  · rw [blockBody_cons _ quoted ended, List.append_assoc] at starts
    exact absurd rfl (head_escape quoted ended starts).1

/-- Where two more quotes follow one that is not escaped, the text is at its end. -/
theorem ends_of_quotes {quotes : Nat} {text tail more : List Char} (few : quotes < 2)
    (starts : blockBody (quotes + 1) text ++ tail = '"' :: '"' :: more) :
    text = [] ∨ quotes = 0 ∧ text = ['"'] := by
  cases text with
  | nil => exact .inl rfl
  | cons c text =>
      obtain ⟨notThird, rfl, next⟩ := starts_with_quote starts
      cases text with
      | nil => exact .inr ⟨by omega, rfl⟩
      | cons d text =>
          have notThird' := (starts_with_quote next).1
          omega

theorem basicBlock_blockBody {rest : List Char} (noQuote : rest.head? ≠ some '"')
    (text : List Char) :
    ∀ quotes ≤ 2, basicBlock false (blockBody quotes text ++ '"' :: '"' :: '"' :: rest) =
      some (text, rest) := by
  induction text with
  | nil =>
      intro quotes _
      exact congrArg some (closing_quotes (n := 0) (by decide) noQuote)
  | cons c text ih =>
      intro quotes few
      by_cases quoted : c = '"'
      · subst quoted
        by_cases third : quotes = 2
        · rw [blockBody, if_pos third]
          calc _ = prepend '"' (basicBlock false (blockBody 0 text ++ '"' :: '"' :: '"' :: rest)) :=
                rfl
            _ = _ := by rw [ih 0 (by decide)]; rfl
        rw [blockBody, if_neg third, List.cons_append]
        by_cases closes : ∃ more,
            blockBody (quotes + 1) text ++ '"' :: '"' :: '"' :: rest = '"' :: '"' :: more
        · obtain ⟨more, starts⟩ := closes
          obtain rfl | ⟨rfl, rfl⟩ := ends_of_quotes (by omega) starts
          · exact congrArg some (closing_quotes (n := 1) (by decide) noQuote)
          · exact congrArg some (closing_quotes (n := 2) (by decide) noQuote)
        · rw [basicBlock_quote fun more starts => closes ⟨more, starts⟩, ih _ (by omega)]
          rfl
      by_cases ended : c = '\n'
      · subst ended
        calc _ = prepend '\n' (basicBlock false (blockBody 0 text ++ '"' :: '"' :: '"' :: rest)) :=
              rfl
          _ = _ := by rw [ih 0 (by decide)]; rfl
      · rw [blockBody_cons _ quoted ended, List.append_assoc, basicBlock_escape quoted ended,
          ih 0 (by decide)]
        rfl

theorem le_longestRun (quote : Char) (text : List Char) :
    ∀ run, run ≤ longestRun quote run text := by
  induction text with
  | nil => exact fun run => Nat.le_refl run
  | cons c text ih =>
      intro run
      rw [longestRun]
      split
      · exact Nat.le_trans (Nat.le_succ run) (ih (run + 1))
      · exact Nat.le_max_left ..

theorem not_mem_of_longestRun {quote : Char} {text : List Char} :
    ∀ {run : Nat}, longestRun quote run text = 0 → quote ∉ text := by
  induction text with
  | nil => simp
  | cons c text ih =>
      intro run none
      rw [longestRun] at none
      split at none
      · have := le_longestRun quote text (run + 1)
        omega
      · rename_i other
        have : longestRun quote 0 text = 0 := by omega
        simp [Ne.symm other, ih this]

/-- A character other than a quote within a block of a literal string. -/
theorem literalBlock_plain {c : Char} (notQuote : c ≠ '\'') (inBlock : isControl c = false)
    (rest : List Char) : literalBlock (c :: rest) = prepend c (literalBlock rest) := by
  have notReturn : c ≠ '\r' := by
    rintro rfl
    exact absurd inBlock (by decide)
  have kept : (c = '\n' || isPlain c) = true := by
    simp only [isControl, Bool.and_eq_false_iff, Bool.not_eq_false', decide_eq_false_iff_not,
      not_not] at inBlock
    simpa using inBlock.symm
  rw [literalBlock, if_pos kept]
  all_goals simp [*]

theorem literalBlock_quote {rest : List Char} (single : ∀ more, rest ≠ '\'' :: '\'' :: more) :
    literalBlock ('\'' :: rest) = prepend '\'' (literalBlock rest) := by
  rw [literalBlock]
  · rfl
  all_goals simp
  exact single

/-- Where two more quotes follow one, and no three stand in a row, the text is at its end. -/
theorem ends_of_run {run : Nat} {text tail more : List Char}
    (few : longestRun '\'' (run + 1) text ≤ 2)
    (starts : text ++ tail = '\'' :: '\'' :: more) : text = [] ∨ text = ['\''] := by
  match text with
  | [] => exact .inl rfl
  | [c] =>
      cases starts
      exact .inr rfl
  | c :: d :: text =>
      cases starts
      rw [longestRun, if_pos rfl, longestRun, if_pos rfl] at few
      have := le_longestRun '\'' text (run + 1 + 1 + 1)
      omega

theorem literalBlock_text {rest : List Char} (noQuote : rest.head? ≠ some '\'')
    (text : List Char) (inBlock : ∀ c ∈ text, isControl c = false) :
    ∀ run, longestRun '\'' run text ≤ 2 →
      literalBlock (text ++ '\'' :: '\'' :: '\'' :: rest) = some (text, rest) := by
  induction text with
  | nil =>
      intro run _
      exact congrArg some (closing_quotes (n := 0) (by decide) noQuote)
  | cons c text ih =>
      intro run few
      have later := ih fun c member => inBlock c (List.mem_cons_of_mem _ member)
      rw [longestRun] at few
      by_cases quoted : c = '\''
      · subst quoted
        rw [if_pos rfl] at few
        by_cases closes : ∃ more, text ++ '\'' :: '\'' :: '\'' :: rest = '\'' :: '\'' :: more
        · obtain ⟨more, starts⟩ := closes
          obtain rfl | rfl := ends_of_run few starts
          · exact congrArg some (closing_quotes (n := 1) (by decide) noQuote)
          · exact congrArg some (closing_quotes (n := 2) (by decide) noQuote)
        · rw [List.cons_append, literalBlock_quote fun more starts => closes ⟨more, starts⟩,
            later (run + 1) few]
          rfl
      · rw [if_neg quoted] at few
        rw [List.cons_append, literalBlock_plain quoted (inBlock c List.mem_cons_self),
          later 0 (by omega)]
        rfl

theorem write_starts (text : List Char) :
    ∃ cs, write text = '"' :: cs ∨ write text = '\'' :: cs := by
  unfold write
  split
  · exact ⟨_, .inl rfl⟩
  · exact ⟨_, .inr rfl⟩
  · exact ⟨_, .inl rfl⟩
  · exact ⟨_, .inr rfl⟩

/-- Behind the opening quotes of a block only the line end is skipped that was put there. -/
theorem afterLineEnd_blockStart {text body : List Char} (notReturn : body.head? ≠ some '\r')
    (starts : body.head? = some '\n' → '\n' ∈ text) :
    afterLineEnd (blockStart text ++ body) = body := by
  unfold blockStart
  split
  · rfl
  · rename_i single
    have notLine : body.head? ≠ some '\n' := fun starts' => single (by simpa using starts starts')
    rw [List.nil_append]
    unfold afterLineEnd
    split
    · simp at notLine
    · simp at notReturn
    · rfl

theorem plain_of_literalLine {text : List Char} (form : Form.of text = .literalLine) :
    ∀ c ∈ text, c ≠ '\'' ∧ isPlain c = true := by
  simp only [Form.of] at form
  split at form
  · cases form
  split at form
  · rename_i fits
    simp only [Bool.and_eq_true, Bool.not_eq_true', List.any_eq_false, decide_eq_true_eq,
      List.contains_eq_mem, decide_eq_false_iff_not] at fits
    obtain ⟨⟨noControl, noQuote⟩, noLine⟩ := fits
    intro c member
    have notQuote : c ≠ '\'' := fun same => not_mem_of_longestRun noQuote (same ▸ member)
    have notLine : c ≠ '\n' := fun same => noLine (same ▸ member)
    exact ⟨notQuote, by simpa [isControl, notLine] using noControl c member⟩
  split at form
  · cases form
  split at form
  · cases form
  split at form
  · cases form
  · cases form

theorem inBlock_of_literalBlock {text : List Char} (form : Form.of text = .literalBlock) :
    longestRun '\'' 0 text ≤ 2 ∧ ∀ c ∈ text, isControl c = false := by
  simp only [Form.of] at form
  split at form
  · cases form
  split at form
  · cases form
  split at form
  · cases form
  split at form
  · rename_i fits
    simp only [Bool.and_eq_true, Bool.not_eq_true', List.any_eq_false, decide_eq_true_eq] at fits
    exact ⟨fits.2, fun c member => by simpa using fits.1 c member⟩
  split at form
  · cases form
  · cases form

theorem head_lineBody (c : Char) (text tail more : List Char) :
    lineBody (c :: text) ++ tail ≠ '"' :: more := by
  intro starts
  unfold lineBody at starts
  split at starts
  · contradiction
  · simp at starts
  · simp at starts
  · rename_i notQuote notLine same
    cases same
    rw [List.append_assoc] at starts
    have differs := head_escape (fun same => notQuote (by rw [same]))
      (fun same => notLine (by rw [same])) starts
    exact absurd rfl differs.1

/-- A block starts with a line end only where the text does. -/
theorem head_blockBody (quotes : Nat) (text tail : List Char) :
    (blockBody quotes text ++ '"' :: tail).head? ≠ some '\r' ∧
      ((blockBody quotes text ++ '"' :: tail).head? = some '\n' → '\n' ∈ text) := by
  cases text with
  | nil => simp [blockBody]
  | cons c text =>
      by_cases quoted : c = '"'
      · subst quoted
        rw [blockBody]
        split
        · simp
        · simp
      by_cases ended : c = '\n'
      · subst ended
        simp [blockBody]
      rw [blockBody_cons _ quoted ended, List.append_assoc]
      cases starts : escape c ++ (blockBody 0 text ++ '"' :: tail) with
      | nil => simp
      | cons d cs =>
          obtain ⟨-, notLine, notReturn⟩ := head_escape quoted ended starts
          simp [notLine, notReturn]

/-- A block of a literal string starts with a line end only where the text does. -/
theorem head_literalBlock {text : List Char} (inBlock : ∀ c ∈ text, isControl c = false)
    (tail : List Char) :
    (text ++ '\'' :: tail).head? ≠ some '\r' ∧
      ((text ++ '\'' :: tail).head? = some '\n' → '\n' ∈ text) := by
  cases text with
  | nil => simp
  | cons c text =>
      have notReturn : c ≠ '\r' := fun same =>
        absurd (inBlock c List.mem_cons_self) (by rw [same]; decide)
      simp +contextual [notReturn]

section Forms

variable {text rest : List Char}

theorem read_basicLine (text : List Char) (noQuote : rest.head? ≠ some '"') :
    read ('"' :: (lineBody text ++ '"' :: rest)) = some (text, rest) := by
  have single : ∀ more, lineBody text ++ '"' :: rest ≠ '"' :: '"' :: more := by
    cases text with
    | nil =>
        rintro more ⟨⟩
        exact noQuote rfl
    | cons c text => exact fun more => head_lineBody c text _ _
  calc _ = basicLine (lineBody text ++ '"' :: rest) := by rw [read]; simpa using single
    _ = some (text, rest) := basicLine_lineBody text rest

/-- An empty text is not written in this form: its two quotes could open a block. -/
theorem read_literalLine (notEmpty : text ≠ [])
    (plain : ∀ c ∈ text, c ≠ '\'' ∧ isPlain c = true) (rest : List Char) :
    read ('\'' :: (text ++ '\'' :: rest)) = some (text, rest) := by
  have single : ∀ more, text ++ '\'' :: rest ≠ '\'' :: '\'' :: more := by
    cases text with
    | nil => contradiction
    | cons c text =>
        intro more starts
        exact (plain c List.mem_cons_self).1 (List.head_eq_of_cons_eq starts)
  calc _ = literalLine (text ++ '\'' :: rest) := by rw [read]; simpa using single
    _ = some (text, rest) := literalLine_text plain rest

theorem read_basicBlock (text : List Char) (noQuote : rest.head? ≠ some '"') :
    read ('"' :: '"' :: '"' ::
      (blockStart text ++ (blockBody 0 text ++ '"' :: '"' :: '"' :: rest))) = some (text, rest) := by
  obtain ⟨notReturn, starts⟩ := head_blockBody 0 text ('"' :: '"' :: rest)
  rw [read, afterLineEnd_blockStart notReturn starts]
  exact basicBlock_blockBody noQuote text 0 (by decide)

theorem read_literalBlock (few : longestRun '\'' 0 text ≤ 2)
    (inBlock : ∀ c ∈ text, isControl c = false) (noQuote : rest.head? ≠ some '\'') :
    read ('\'' :: '\'' :: '\'' ::
      (blockStart text ++ (text ++ '\'' :: '\'' :: '\'' :: rest))) = some (text, rest) := by
  obtain ⟨notReturn, starts⟩ := head_literalBlock inBlock ('\'' :: '\'' :: rest)
  rw [read, afterLineEnd_blockStart notReturn starts]
  exact literalBlock_text noQuote text inBlock 0 few

end Forms

/-- A text is read back from the literal that it is written as. -/
theorem read_write (text : List Char) {rest : List Char} (noQuote : rest.head? ≠ some '"')
    (noSingleQuote : rest.head? ≠ some '\'') : read (write text ++ rest) = some (text, rest) := by
  cases form : Form.of text with
  | basicLine => simpa [write, form] using read_basicLine text noQuote
  | literalLine =>
      have notEmpty : text ≠ [] := by
        rintro rfl
        exact absurd form (by decide)
      simpa [write, form] using read_literalLine notEmpty (plain_of_literalLine form) rest
  | basicBlock => simpa [write, form] using read_basicBlock text noQuote
  | literalBlock =>
      obtain ⟨few, inBlock⟩ := inBlock_of_literalBlock form
      simpa [write, form] using read_literalBlock few inBlock noSingleQuote

end Registry.Toml.Literal
