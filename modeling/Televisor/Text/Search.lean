namespace Televisor.Text

/-! Searching a text for a fixed word, and trimming it.  Every search answers with the rest of the text
it was given, so a position is always a suffix and never leaves the text. -/

/-- What follows `word`, if the text begins with it. -/
def behind? : (word text : List Char) → Option (List Char)
  | [], text => some text
  | _ :: _, [] => none
  | w :: word, c :: text => if w = c then behind? word text else none

theorem behind?_joined {word text rest : List Char} (found : behind? word text = some rest) :
    text = word ++ rest := by
  induction word generalizing text with
  | nil => simpa [behind?] using found
  | cons w word ih =>
      cases text with
      | nil => simp [behind?] at found
      | cons c text =>
          simp only [behind?] at found
          split at found
          · rename_i same
            rw [same, ih found, List.cons_append]
          · contradiction

def after? (word : List Char) : List Char → Option (List Char)
  | [] => if word.isEmpty then some [] else none
  | c :: rest =>
    match behind? word (c :: rest) with
    | some following => some following
    | none => after? word rest

theorem after?_length_le {word text rest : List Char} (found : after? word text = some rest) :
    rest.length + word.length ≤ text.length := by
  induction text with
  | nil =>
      simp only [after?] at found
      split at found
      · simp_all
      · contradiction
  | cons c tail ih =>
      simp only [after?] at found
      split at found
      · rename_i following begins
        cases found
        have joined := behind?_joined begins
        have sizes := congrArg List.length joined
        simp only [List.length_append] at sizes
        omega
      · have bound := ih found
        simp only [List.length_cons]
        omega

def splitAtFirst? (word text : List Char) : Option (List Char × List Char) :=
  (after? word text).map fun rest => (text.take (text.length - rest.length - word.length), rest)

def contains (word text : List Char) : Bool :=
  (after? word text).isSome

/-- Replaces every occurrence of a non-empty `word`, from left to right and never inside a
replacement; an empty `word` replaces nothing. -/
def replaceAll (word replacement : List Char) : List Char → List Char
  | [] => []
  | c :: rest =>
    if word.isPrefixOf (c :: rest) && !word.isEmpty then
      replacement ++ replaceAll word replacement (rest.drop (word.length - 1))
    else
      c :: replaceAll word replacement rest
termination_by text => text.length
decreasing_by all_goals simp only [List.length_drop, List.length_cons]; omega

/-- White space as Unicode's `White_Space` property defines it. -/
def isBlank (c : Char) : Bool :=
  let code := c.toNat
  (9 ≤ code && code ≤ 13) || code == 0x20 || code == 0x85 || code == 0xA0 || code == 0x1680 ||
    (0x2000 ≤ code && code ≤ 0x200A) || code == 0x2028 || code == 0x2029 || code == 0x202F ||
    code == 0x205F || code == 0x3000

def trimBlanks (text : List Char) : List Char :=
  ((text.dropWhile isBlank).reverse.dropWhile isBlank).reverse

def trimEnd (unwanted : Char) (text : List Char) : List Char :=
  (text.reverse.dropWhile (· == unwanted)).reverse

end Televisor.Text
