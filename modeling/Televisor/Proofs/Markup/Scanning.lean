import Televisor.Markup.Piece
import Televisor.Markup.Scan
import Televisor.Proofs.Text.Slice

namespace Televisor.Markup

open Text

/-! What the searches find in a document: the pieces that are of their kind and name, whatever other
names begin with that name. -/

@[simp] theorem render_nil : render [] = [] :=
  rfl

@[simp] theorem render_cons (piece : Piece) (pieces : List Piece) :
    render (piece :: pieces) = piece.render ++ render pieces :=
  List.flatMap_cons

@[simp] theorem render_append (pieces more : List Piece) :
    render (pieces ++ more) = render pieces ++ render more :=
  List.flatMap_append

namespace Name

theorem isNameChar (name : Name) {c : Char} (inside : c ∈ name.letters) : isNameChar c :=
  List.all_eq_true.mp name.solid c inside

theorem not_mem_bracket (name : Name) : '<' ∉ name.letters :=
  fun inside => absurd (name.isNameChar inside) (by decide)

theorem not_mem_closing (name : Name) : '>' ∉ name.letters :=
  fun inside => absurd (name.isNameChar inside) (by decide)

theorem not_mem_slash (name : Name) : '/' ∉ name.letters :=
  fun inside => absurd (name.isNameChar inside) (by decide)

theorem not_isBlank (name : Name) {c : Char} (inside : c ∈ name.letters) : ¬ isBlank c := by
  have solid := name.isNameChar inside
  simp only [Markup.isNameChar, Bool.and_eq_true, Bool.not_eq_true'] at solid
  exact Bool.eq_false_iff.mp solid.2

theorem ne_slash (name : Name) (rest following : List Char) :
    '/' :: rest ≠ name.letters ++ following := by
  intro same
  cases shape : name.letters with
  | nil => exact name.nonempty shape
  | cons c letters =>
      rw [shape, List.cons_append, List.cons.injEq] at same
      refine name.not_mem_slash ?_
      rw [shape, same.1]
      exact List.mem_cons_self

/-- Where one name begins what another one begins, the other goes on. -/
theorem goes_on {name tag : Name} (differs : name ≠ tag) {ending following : List Char}
    (stops : ∀ c, ending.head? = some c → c ∉ tag.letters)
    (same : name.letters ++ ending = tag.letters ++ following) :
    ∃ c more, following = c :: more ∧ c ∈ name.letters := by
  have apart : name.letters ≠ tag.letters := fun letters => differs (Name.ext letters)
  rcases List.append_eq_append_iff.mp same with ⟨_ | ⟨c, more⟩, longer, rfl⟩ | ⟨_ | ⟨c, more⟩, longer, rfl⟩
  · exact (apart (longer.trans (List.append_nil _)).symm).elim
  · refine (stops c rfl ?_).elim
    rw [longer]
    exact List.mem_append_right _ List.mem_cons_self
  · exact (apart (longer.trans (List.append_nil _))).elim
  · refine ⟨c, more ++ ending, rfl, ?_⟩
    rw [longer]
    exact List.mem_append_right _ List.mem_cons_self

end Name

theorem Attributes.isBlank_first (attributes : Attributes) {c : Char}
    (first : attributes.written.head? = some c) : isBlank c := by
  have apart := attributes.apart
  rw [first] at apart
  exact apart

/-- What begins a text up to a character that it does not have begins what stands before it. -/
theorem prefix_before {stop : Char} {word text rest : List Char} (begins : word <+: text ++ stop :: rest)
    (free : stop ∉ word) : word <+: text := by
  induction text generalizing word with
  | nil =>
      cases word with
      | nil => exact List.nil_prefix
      | cons w word =>
          obtain ⟨rfl, _⟩ := List.cons_prefix_cons.mp begins
          exact (free List.mem_cons_self).elim
  | cons c text ih =>
      cases word with
      | nil => exact List.nil_prefix
      | cons w word =>
          obtain ⟨rfl, later⟩ := List.cons_prefix_cons.mp begins
          rw [List.mem_cons, not_or] at free
          exact List.cons_prefix_cons.mpr ⟨rfl, ih later free.2⟩

/-- A search for a word that begins with a bracket, at a tag: it is found there or after it. -/
theorem after?_tag {inner : List Char} (plain : '<' ∉ inner) (word rest : List Char) :
    after? ('<' :: word) ('<' :: (inner ++ '>' :: rest)) =
      (behind? word (inner ++ '>' :: rest)).or (after? ('<' :: word) rest) := by
  have free : '<' ∉ inner ++ ['>'] := by simp [plain]
  rw [after?, behind?, if_pos rfl]
  cases behind? word (inner ++ '>' :: rest) with
  | some following => rfl
  | none =>
      rw [List.append_cons, after?_skip free]
      rfl

section Opening

variable {tag : Name}

theorem afterOpenTag?_eq (tag text : List Char) :
    afterOpenTag? tag text = (after? (openWord tag) text).bind fun
      | [] => none
      | c :: rest =>
        if c = '>' then some rest
        else if isBlank c then afterBracket? (c :: rest)
        else afterOpenTag? tag (c :: rest) := by
  rw [afterOpenTag?]
  split
  · rename_i missed
    rw [missed, Option.bind_none]
  · rename_i found
    rw [found, Option.bind_some]
  · rename_i found
    rw [found, Option.bind_some]

theorem afterOpenTag?_nil (tag : List Char) : afterOpenTag? tag [] = none := by
  rw [afterOpenTag?_eq]
  rfl

theorem afterOpenTag?_congr {tag text other : List Char}
    (same : after? (openWord tag) text = after? (openWord tag) other) :
    afterOpenTag? tag text = afterOpenTag? tag other := by
  rw [afterOpenTag?_eq, same, ← afterOpenTag?_eq]

theorem afterOpenTag?_skip {passed : List Char} (plain : '<' ∉ passed) (tag text : List Char) :
    afterOpenTag? tag (passed ++ text) = afterOpenTag? tag text :=
  afterOpenTag?_congr (after?_skip plain _ _)

/-- A tag is passed over if its name does not begin with the name looked for, and also if it goes on
after that name. -/
theorem afterOpenTag?_passed {inner : List Char} (plain : '<' ∉ inner ∧ '>' ∉ inner)
    (longer : ∀ following, inner = tag.letters ++ following → ∃ c more, following = c :: more ∧ ¬ isBlank c)
    (rest : List Char) :
    afterOpenTag? tag.letters ('<' :: (inner ++ '>' :: rest)) = afterOpenTag? tag.letters rest := by
  have found := after?_tag plain.1 tag.letters rest
  by_cases begins : tag.letters <+: inner
  · obtain ⟨following, rfl⟩ := begins
    obtain ⟨c, more, rfl, solid⟩ := longer following rfl
    rw [List.append_assoc, behind?_eq_some.mpr rfl, Option.some_or] at found
    have plainRest : '<' ∉ c :: more ++ ['>'] := by
      simp only [List.mem_append, not_or] at plain ⊢
      exact ⟨plain.1.2, by decide⟩
    have notBracket : c ≠ '>' := by
      rintro rfl
      exact plain.2 (List.mem_append_right _ List.mem_cons_self)
    rw [afterOpenTag?_eq, openWord, List.append_assoc, found, Option.bind_some, List.cons_append]
    dsimp only
    rw [if_neg notBracket, if_neg solid, ← List.cons_append, List.append_cons,
      afterOpenTag?_skip plainRest]
  · have missed : behind? tag.letters (inner ++ '>' :: rest) = none :=
      behind?_eq_none.mpr fun begun => begins (prefix_before begun tag.not_mem_closing)
    rw [missed, Option.none_or] at found
    exact afterOpenTag?_congr found

theorem opening_plain (name : Name) (attributes : Attributes) :
    '<' ∉ name.letters ++ attributes.written ∧ '>' ∉ name.letters ++ attributes.written := by
  rw [List.mem_append, List.mem_append, not_or, not_or]
  exact ⟨⟨name.not_mem_bracket, attributes.inside.1⟩, name.not_mem_closing, attributes.inside.2⟩

/-- An opening tag ends at the first bracket behind its name, if there is one. -/
theorem afterOpenTag?_begun {tag written rest : List Char} (apart : ∀ c ∈ written.head?, isBlank c)
    (unended : '>' ∉ written) (next : ∀ c ∈ rest.head?, c = '>') :
    afterOpenTag? tag (openWord tag ++ (written ++ rest)) = afterBracket? rest := by
  rw [afterOpenTag?_eq, after?_here, Option.bind_some]
  cases written with
  | nil =>
      cases rest with
      | nil => rfl
      | cons c rest =>
          obtain rfl := next c rfl
          exact (after?_here ['>'] rest).symm
  | cons c written =>
      have bracket : c ≠ '>' := fun same => unended (List.mem_cons.mpr (.inl same.symm))
      have blank : isBlank c := apart c rfl
      rw [List.cons_append]
      dsimp only
      rw [if_neg bracket, if_pos blank, ← List.cons_append, afterBracket?, after?_skip unended, afterBracket?]

theorem afterOpenTag?_opening (attributes : Attributes) (rest : List Char) :
    afterOpenTag? tag.letters ((Piece.opening tag attributes).render ++ rest) = some rest := by
  have written : (Piece.opening tag attributes).render ++ rest =
      openWord tag.letters ++ (attributes.written ++ '>' :: rest) := by
    simp [Piece.render, openWord]
  rw [written, afterOpenTag?_begun (fun _ => attributes.isBlank_first) attributes.inside.2 (by simp)]
  exact after?_here ['>'] rest

theorem empty_plain (name : Name) : '<' ∉ name.letters ++ ['/'] ∧ '>' ∉ name.letters ++ ['/'] := by
  rw [List.mem_append, List.mem_append, not_or, not_or]
  exact ⟨⟨name.not_mem_bracket, by decide⟩, name.not_mem_closing, by decide⟩

theorem closing_plain (name : Name) : '<' ∉ '/' :: name.letters ∧ '>' ∉ '/' :: name.letters := by
  rw [List.mem_cons, List.mem_cons, not_or, not_or]
  exact ⟨⟨by decide, name.not_mem_bracket⟩, by decide, name.not_mem_closing⟩

/-- Every other piece is passed over. -/
theorem afterOpenTag?_other {piece : Piece} (other : ∀ attributes, piece ≠ .opening tag attributes)
    (rest : List Char) :
    afterOpenTag? tag.letters (piece.render ++ rest) = afterOpenTag? tag.letters rest := by
  cases piece with
  | text content plain => exact afterOpenTag?_skip plain _ _
  | opening name attributes =>
      rw [Piece.render, List.append_assoc, List.cons_append, List.singleton_append]
      refine afterOpenTag?_passed (opening_plain name attributes) (fun following same => ?_) rest
      have differs : name ≠ tag := by
        rintro rfl
        exact other attributes rfl
      have stops : ∀ c, attributes.written.head? = some c → c ∉ tag.letters :=
        fun c first inside => tag.not_isBlank inside (attributes.isBlank_first first)
      obtain ⟨c, more, longer, inside⟩ := Name.goes_on differs stops same
      exact ⟨c, more, longer, name.not_isBlank inside⟩
  | empty name =>
      rw [Piece.render, List.append_assoc, List.cons_append, List.singleton_append]
      refine afterOpenTag?_passed (empty_plain name) (fun following same => ?_) rest
      by_cases differs : name = tag
      · subst differs
        exact ⟨'/', [], (List.append_cancel_left same).symm, by decide⟩
      · have stops : ∀ c, ['/'].head? = some c → c ∉ tag.letters := by
          rintro _ ⟨⟩
          exact tag.not_mem_slash
        obtain ⟨c, more, longer, inside⟩ := Name.goes_on differs stops same
        exact ⟨c, more, longer, name.not_isBlank inside⟩
  | closing name =>
      rw [Piece.render, List.append_assoc, List.cons_append, List.singleton_append]
      exact afterOpenTag?_passed (closing_plain name)
        (fun following same => (tag.ne_slash _ _ same).elim) rest

end Opening

section Closing

variable {tag : Name}

/-- A word that ends with a stop begins a text with that stop only if it is what stands before it. -/
theorem eq_before_stop {stop : Char} {word text rest : List Char}
    (begins : word ++ [stop] <+: text ++ stop :: rest) (free : stop ∉ word) (plain : stop ∉ text) :
    word = text := by
  obtain ⟨after, same⟩ := begins
  rw [List.append_assoc, List.singleton_append] at same
  rcases List.append_eq_append_iff.mp same with ⟨_ | ⟨c, more⟩, longer, split⟩ | ⟨_ | ⟨c, more⟩, longer, split⟩
  · rw [longer, List.append_nil]
  · rw [List.cons_append, List.cons.injEq] at split
    refine (plain ?_).elim
    rw [longer, split.1]
    exact List.mem_append_right _ List.mem_cons_self
  · rw [longer, List.append_nil]
  · rw [List.cons_append, List.cons.injEq] at split
    refine (free ?_).elim
    rw [longer, split.1]
    exact List.mem_append_right _ List.mem_cons_self

theorem after?_closeWord_passed {inner : List Char} (plain : '<' ∉ inner ∧ '>' ∉ inner)
    (other : inner ≠ '/' :: tag.letters) (rest : List Char) :
    after? (closeWord tag.letters) ('<' :: (inner ++ '>' :: rest)) =
      after? (closeWord tag.letters) rest := by
  have missed : behind? ('/' :: tag.letters ++ ['>']) (inner ++ '>' :: rest) = none := by
    rw [behind?_eq_none]
    exact fun begins => other (eq_before_stop begins (closing_plain tag).2 plain.2).symm
  have found := after?_tag plain.1 ('/' :: tag.letters ++ ['>']) rest
  rw [missed, Option.none_or] at found
  exact found

theorem after?_closeWord_other {piece : Piece} (other : piece ≠ .closing tag) (rest : List Char) :
    after? (closeWord tag.letters) (piece.render ++ rest) = after? (closeWord tag.letters) rest := by
  cases piece with
  | text content plain => exact after?_skip plain _ _
  | opening name attributes =>
      rw [Piece.render, List.append_assoc, List.cons_append, List.singleton_append]
      exact after?_closeWord_passed (opening_plain name attributes)
        (fun same => name.ne_slash _ _ same.symm) rest
  | empty name =>
      rw [Piece.render, List.append_assoc, List.cons_append, List.singleton_append]
      exact after?_closeWord_passed (empty_plain name) (fun same => name.ne_slash _ _ same.symm) rest
  | closing name =>
      rw [Piece.render, List.append_assoc, List.cons_append, List.singleton_append]
      refine after?_closeWord_passed (closing_plain name) (fun same => other ?_) rest
      rw [Name.ext (List.cons.inj same).2]

/-- The text is split at the first closing tag of that name. -/
theorem splitAtFirst?_closing {before : List Piece} (others : ∀ piece ∈ before, piece ≠ .closing tag)
    (rest : List Char) :
    splitAtFirst? (closeWord tag.letters) (render before ++ ((Piece.closing tag).render ++ rest)) =
      some (render before, rest) := by
  refine splitAtFirst?_of_after? ?_
  induction before with
  | nil => exact after?_here _ rest
  | cons piece before ih =>
      obtain ⟨other, others⟩ := List.forall_mem_cons.mp others
      rw [render_cons, List.append_assoc, after?_closeWord_other other, ih others]

end Closing

section Elements

variable {tag : Name} {inside : List Piece}

theorem elementText?_other {piece : Piece} (other : ∀ attributes, piece ≠ .opening tag attributes)
    (rest : List Char) :
    elementText? (piece.render ++ rest) tag.letters = elementText? rest tag.letters := by
  rw [elementText?, afterOpenTag?_other other]
  rfl

theorem elementText?_opening (attributes : Attributes)
    (unclosed : ∀ piece ∈ inside, piece ≠ .closing tag) (rest : List Char) :
    elementText? ((Piece.opening tag attributes).render ++
      (render inside ++ ((Piece.closing tag).render ++ rest))) tag.letters = some (render inside) := by
  rw [elementText?, afterOpenTag?_opening, Option.bind_eq_bind, Option.bind_some,
    splitAtFirst?_closing unclosed]
  rfl

theorem elementText?_skip {before : List Piece}
    (others : ∀ piece ∈ before, ∀ attributes, piece ≠ .opening tag attributes) (rest : List Char) :
    elementText? (render before ++ rest) tag.letters = elementText? rest tag.letters := by
  induction before with
  | nil => rfl
  | cons piece before ih =>
      obtain ⟨other, others⟩ := List.forall_mem_cons.mp others
      rw [render_cons, List.append_assoc, elementText?_other other, ih others]

theorem elementText?_none : elementText? [] tag.letters = none := by
  rw [elementText?, afterOpenTag?_nil]
  rfl

theorem blocks_eq (text tag : List Char) :
    blocks text tag =
      match afterOpenTag? tag text with
      | none => []
      | some inner =>
        match splitAtFirst? (closeWord tag) inner with
        | none => []
        | some (inside, rest) => inside :: blocks rest tag := by
  rw [blocks]
  split
  · rename_i missed
    rw [missed]
  · rename_i found
    rw [found]
    dsimp only
    split
    · rename_i missed
      rw [missed]
    · rename_i closed
      rw [closed]

theorem blocks_other {piece : Piece} (other : ∀ attributes, piece ≠ .opening tag attributes)
    (rest : List Char) : blocks (piece.render ++ rest) tag.letters = blocks rest tag.letters := by
  rw [blocks_eq, afterOpenTag?_other other, ← blocks_eq]

theorem blocks_skip {before : List Piece}
    (others : ∀ piece ∈ before, ∀ attributes, piece ≠ .opening tag attributes) (rest : List Char) :
    blocks (render before ++ rest) tag.letters = blocks rest tag.letters := by
  induction before with
  | nil => rfl
  | cons piece before ih =>
      obtain ⟨other, others⟩ := List.forall_mem_cons.mp others
      rw [render_cons, List.append_assoc, blocks_other other, ih others]

theorem blocks_opening (attributes : Attributes) (unclosed : ∀ piece ∈ inside, piece ≠ .closing tag)
    (rest : List Char) :
    blocks ((Piece.opening tag attributes).render ++
      (render inside ++ ((Piece.closing tag).render ++ rest))) tag.letters =
        render inside :: blocks rest tag.letters := by
  rw [blocks_eq, afterOpenTag?_opening]
  dsimp only
  rw [splitAtFirst?_closing unclosed]

theorem blocks_none : blocks [] tag.letters = [] := by
  rw [blocks_eq, afterOpenTag?_nil]

end Elements

section Empty

variable {tag : Name}

theorem emptyElements_eq (text tag : List Char) :
    emptyElements text tag =
      match after? (openWord tag ++ [' ']) text with
      | none => []
      | some rest =>
        if rest.contains '>' then
          trimEnd '/' (rest.takeWhile (· != '>')) :: emptyElements (rest.dropWhile (· != '>')) tag
        else [] := by
  rw [emptyElements]
  split
  · rename_i missed
    rw [missed]
  · rename_i found
    rw [found]

section Found

variable {tag text skipped behind : List Char}

theorem emptyElements_missed (missed : after? (openWord tag ++ [' ']) text = none) :
    emptyElements text tag = [] := by
  rw [emptyElements_eq, missed]

variable (found : Found (openWord tag ++ [' ']) skipped behind text)

include found

/-- An element is told by what stands before its bracket, and the search goes on at the bracket. -/
theorem emptyElements_found {written rest : List Char} (closed : Found ['>'] written rest behind) :
    emptyElements text tag = trimEnd '/' written :: emptyElements ('>' :: rest) tag := by
  have split : behind = written ++ '>' :: rest := closed.text_eq
  have bracket : behind.contains '>' = true := by simp [split]
  rw [emptyElements_eq, found.after?]
  dsimp only
  rw [if_pos bracket, split, takeWhile_until closed.not_mem, dropWhile_until closed.not_mem]

theorem emptyElements_unclosed (unclosed : after? ['>'] behind = none) : emptyElements text tag = [] := by
  rw [emptyElements_eq, found.after?]
  exact if_neg (by simpa using not_mem_of_missed unclosed)

end Found

theorem emptyElements_congr {tag text other : List Char}
    (same : after? (openWord tag ++ [' ']) text = after? (openWord tag ++ [' ']) other) :
    emptyElements text tag = emptyElements other tag := by
  rw [emptyElements_eq, same, ← emptyElements_eq]

theorem emptyElements_skip {passed : List Char} (plain : '<' ∉ passed) (tag text : List Char) :
    emptyElements (passed ++ text) tag = emptyElements text tag :=
  emptyElements_congr (after?_skip plain _ _)

theorem emptyElements_passed {inner rest : List Char} (plain : '<' ∉ inner)
    (other : ¬ tag.letters ++ [' '] <+: inner ++ '>' :: rest) :
    emptyElements ('<' :: (inner ++ '>' :: rest)) tag.letters = emptyElements rest tag.letters := by
  have found := after?_tag plain (tag.letters ++ [' ']) rest
  rw [behind?_eq_none.mpr other, Option.none_or] at found
  exact emptyElements_congr found

theorem Name.not_spaced {name tag : Name} (differs : name ≠ tag) {ending : List Char}
    (stops : ∀ c, ending.head? = some c → c ∉ tag.letters) :
    ¬ tag.letters ++ [' '] <+: name.letters ++ ending := by
  rintro ⟨following, same⟩
  rw [List.append_assoc, List.singleton_append] at same
  obtain ⟨c, more, split, inside⟩ := Name.goes_on differs stops same.symm
  cases split
  exact name.not_isBlank inside (by decide)

/-- Every other piece is passed over. -/
theorem emptyElements_other {piece : Piece} (other : ∀ attributes, piece ≠ .opening tag attributes)
    (rest : List Char) :
    emptyElements (piece.render ++ rest) tag.letters = emptyElements rest tag.letters := by
  cases piece with
  | text content plain => exact emptyElements_skip plain _ _
  | opening name attributes =>
      rw [Piece.render, List.append_assoc, List.cons_append, List.singleton_append]
      refine emptyElements_passed (opening_plain name attributes).1 ?_
      have differs : name ≠ tag := by
        rintro rfl
        exact other attributes rfl
      rw [List.append_assoc]
      refine Name.not_spaced differs fun c first inside => ?_
      cases shape : attributes.written with
      | nil =>
          rw [shape] at first
          cases first
          exact tag.not_mem_closing inside
      | cons blank written =>
          rw [shape] at first
          cases first
          exact tag.not_isBlank inside (attributes.isBlank_first (by rw [shape]; rfl))
  | empty name =>
      rw [Piece.render, List.append_assoc, List.cons_append, List.singleton_append]
      refine emptyElements_passed (empty_plain name).1 ?_
      rw [List.append_assoc]
      by_cases differs : name = tag
      · subst differs
        rintro ⟨following, same⟩
        rw [List.append_assoc] at same
        cases List.append_cancel_left same
      · refine Name.not_spaced differs fun c first => ?_
        cases first
        exact tag.not_mem_slash
  | closing name =>
      rw [Piece.render, List.append_assoc, List.cons_append, List.singleton_append]
      refine emptyElements_passed (closing_plain name).1 ?_
      rintro ⟨following, same⟩
      rw [List.append_assoc] at same
      exact tag.ne_slash _ _ same.symm

/-- An element whose name is followed by a space is told by what stands up to its bracket. -/
theorem emptyElements_opening {attributes : Attributes} {values : List Char}
    (shape : attributes.written = ' ' :: values) (rest : List Char) :
    emptyElements ((Piece.opening tag attributes).render ++ rest) tag.letters =
      trimEnd '/' values :: emptyElements rest tag.letters := by
  have closed : '>' ∉ values := fun inside =>
    attributes.inside.2 (shape ▸ List.mem_cons_of_mem _ inside)
  have text : (Piece.opening tag attributes).render ++ rest =
      openWord tag.letters ++ [' '] ++ (values ++ '>' :: rest) := by
    simp [Piece.render, openWord, shape]
  have bracket : (values ++ '>' :: rest).contains '>' = true := by simp
  have left : emptyElements ('>' :: rest) tag.letters = emptyElements rest tag.letters :=
    emptyElements_skip (show '<' ∉ ['>'] by decide) _ _
  rw [emptyElements_eq, text, after?_here]
  dsimp only
  rw [if_pos bracket, takeWhile_until closed, dropWhile_until closed, left]

theorem emptyElements_none : emptyElements [] tag.letters = [] := by
  rw [emptyElements_eq]
  rfl

end Empty

end Televisor.Markup
