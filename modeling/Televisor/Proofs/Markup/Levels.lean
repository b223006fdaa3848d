import Mathlib.Logic.Function.Iterate
import Televisor.Proofs.Markup.Escaping

namespace Televisor.Markup

/-! Levels of escaping.  A text that has been escaped several times, also one that is about entities, is
read back one level at a time. -/

/-- Every entity is read where it stands, from left to right, and what has been read is not looked at
again. -/
def readOnce : List Char → List Char
  | '&' :: 'l' :: 't' :: ';' :: rest => '<' :: readOnce rest
  | '&' :: 'g' :: 't' :: ';' :: rest => '>' :: readOnce rest
  | '&' :: 'q' :: 'u' :: 'o' :: 't' :: ';' :: rest => '"' :: readOnce rest
  | '&' :: 'a' :: 'p' :: 'o' :: 's' :: ';' :: rest => '\'' :: readOnce rest
  | '&' :: 'a' :: 'm' :: 'p' :: ';' :: rest => '&' :: readOnce rest
  | c :: rest => c :: readOnce rest
  | [] => []

theorem decode_eq_readOnce (text : List Char) : decode text = readOnce text := by
  have read {entity : Char × String} (known : entity ∈ entities) {rest : List Char}
      (ih : decode rest = readOnce rest) : decode (entity.2.toList ++ rest) = entity.1 :: readOnce rest := by
    rw [decode_entity known, ih]
  fun_induction readOnce text with
  | case1 rest ih => exact read (show ('<', "&lt;") ∈ entities by decide) ih
  | case2 rest ih => exact read (show ('>', "&gt;") ∈ entities by decide) ih
  | case3 rest ih => exact read (show ('"', "&quot;") ∈ entities by decide) ih
  | case4 rest ih => exact read (show ('\'', "&apos;") ∈ entities by decide) ih
  | case5 rest ih => exact read (show ('&', "&amp;") ∈ entities by decide) ih
  | case6 c rest noLt noGt noQuot noApos noAmp ih =>
      have missed : entityAt? entities (c :: rest) = none := by
        rw [entityAt?, List.find?_eq_none]
        intro entity known begins
        obtain ⟨later, split⟩ := List.isPrefixOf_iff_prefix.mp begins
        simp only [entities, List.mem_cons, List.not_mem_nil, or_false] at known
        rcases known with rfl | rfl | rfl | rfl | rfl <;> cases split
        · exact noLt _ rfl rfl
        · exact noGt _ rfl rfl
        · exact noQuot _ rfl rfl
        · exact noApos _ rfl rfl
        · exact noAmp _ rfl rfl
      rw [decode, decodeWith_missed missed]
      exact congrArg (c :: ·) ih
  | case7 => rw [decode, decodeWith]

/-- What has been read does not become an entity, and half an entity is none. -/
example : readOnce "&amp;lt; &lt &&lt;".toList = "&lt; &lt &<".toList := by decide

/-- A text, and what is written for it once it has been escaped so many times; any level may escape what
it need not. -/
inductive Layers : Nat → List Char → List Char → Prop where
  | bare (text : List Char) : Layers 0 text text
  | layer {levels : Nat} {text inner written : List Char} (below : Layers levels text inner)
      (escapes : Escapes inner written) : Layers (levels + 1) text written

namespace Layers

variable {levels : Nat} {text written : List Char}

theorem escape (levels : Nat) (text : List Char) : Layers levels text (Markup.escape^[levels] text) := by
  induction levels with
  | zero => exact .bare text
  | succ levels ih =>
      rw [Function.iterate_succ_apply']
      exact .layer ih (.escape _)

/-- Reading takes the outermost level away. -/
theorem unescape (layers : Layers (levels + 1) text written) :
    Layers levels text (Markup.unescape written) := by
  cases layers with
  | layer below escapes => rwa [escapes.unescape]

theorem unescape_all (layers : Layers levels text written) : Markup.unescape^[levels] written = text := by
  induction levels generalizing written with
  | zero =>
      cases layers
      rfl
  | succ levels ih => rw [Function.iterate_succ_apply, ih layers.unescape]

end Layers

/-- Replacing the entities one after another reads each of them once: it takes away one level of escaping,
whatever the text is about. -/
theorem unescape_takes_one_level :
    (∀ text, unescape text = readOnce text) ∧
    (∀ text written, Escapes text written → unescape written = text) ∧
    (∀ levels text written, Layers (levels + 1) text written → Layers levels text (unescape written)) ∧
    (∀ levels text written, Layers levels text written → unescape^[levels] written = text) ∧
    ∀ levels text, Layers levels text (escape^[levels] text) ∧
      unescape (escape^[levels + 1] text) = escape^[levels] text := by
  refine ⟨fun text => ?_, fun _ _ => Escapes.unescape, fun _ _ _ => Layers.unescape,
    fun _ _ _ => Layers.unescape_all, fun levels text => ⟨.escape levels text, ?_⟩⟩
  · rw [unescape_eq_decode, decode_eq_readOnce]
  · rw [Function.iterate_succ_apply']
    exact (Escapes.escape _).unescape

/-- An entity that is itself the text, escaped once and then again. -/
theorem nested_entity_read :
    Layers 2 "&lt;".toList "&amp;amp;lt;".toList ∧ Layers 1 "&lt;".toList "&amp;lt;".toList := by
  have written : Layers 2 "&lt;".toList "&amp;amp;lt;".toList := .escape 2 _
  obtain ⟨_, _, below, _⟩ := unescape_takes_one_level
  have read := below 1 _ _ written
  rw [show unescape "&amp;amp;lt;".toList = "&amp;lt;".toList by decide +kernel] at read
  exact ⟨written, read⟩

end Televisor.Markup
