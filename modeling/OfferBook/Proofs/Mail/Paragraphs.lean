import Mathlib.Data.List.Forall2
import OfferBook.Office.Mail
import OfferBook.Proofs.Text.Characters
import OfferBook.Proofs.Text.Splitting

/-! # Paragraphs of mails

The text of a mail is sent as HTML, too. Each line becomes a paragraph, and the characters of
markup in it become entities.

* `Entity`, `resolve` — entities, and what is read where they stand.
* `Spells` — contents without markup, each with the text that is read; `spells_escapeLine` —
  such is the content of a paragraph.
* `Shows` — what this says of the characters in it.
* `escapeLine_injective`, `page_inj` — lines can be told from contents, and these from the HTML.
* `text_is_shown_unaltered` — each line is shown as it is, and nothing else.
-/

namespace OfferBook.Html

/-! ## Entities -/

inductive Entity
  | amp
  | lt
  | gt
  | nbsp

namespace Entity

/-- What stands behind the ampersand. -/
def name : Entity → List Char
  | amp => "amp;".toList
  | lt => "lt;".toList
  | gt => "gt;".toList
  | nbsp => "nbsp;".toList

/-- The character that is read. -/
def char : Entity → Char
  | amp => '&'
  | lt => '<'
  | gt => '>'
  | nbsp => '\u00a0'

end Entity

/-- Characters that are not taken literally. -/
def markup : List Char := ['&', '<', '>']

theorem Entity.notMem_name (e : Entity) {c : Char} (h : c ∈ markup) : c ∉ e.name := by
  simp only [markup, List.mem_cons, List.not_mem_nil, or_false] at h
  rcases h with rfl | rfl | rfl <;> cases e <;> decide

/-- Read entities as the characters that they stand for. -/
def resolve : List Char → List Char
  | '&' :: 'a' :: 'm' :: 'p' :: ';' :: r => '&' :: resolve r
  | '&' :: 'l' :: 't' :: ';' :: r => '<' :: resolve r
  | '&' :: 'g' :: 't' :: ';' :: r => '>' :: resolve r
  | '&' :: 'n' :: 'b' :: 's' :: 'p' :: ';' :: r => '\u00a0' :: resolve r
  | c :: r => c :: resolve r
  | [] => []

theorem resolve_entity (e : Entity) (r : List Char) :
    resolve ('&' :: e.name ++ r) = e.char :: resolve r := by
  cases e <;> rfl

theorem resolve_of_ne {c : Char} (h : c ≠ '&') (r : List Char) :
    resolve (c :: r) = c :: resolve r := by
  conv_lhs => unfold resolve
  split <;> simp_all

/-! ## Contents of paragraphs -/

/-- The content of a paragraph and the text that is read there. Characters of markup are spelled
    with entities. -/
inductive Spells : List Char → List Char → Prop
  | nil : Spells [] []
  | entity (e : Entity) {content text : List Char} (rest : Spells content text) :
      Spells ('&' :: e.name ++ content) (e.char :: text)
  | literal (c : Char) (h : c ∉ markup) {content text : List Char} (rest : Spells content text) :
      Spells (c :: content) (c :: text)

namespace Spells

variable {content text : List Char}

theorem resolve_eq (h : Spells content text) : resolve content = text := by
  induction h with
  | nil => rfl
  | entity e rest ih => rw [resolve_entity, ih]
  | literal c h rest ih =>
    have other : c ≠ '&' := fun same => h (same ▸ by decide)
    rw [resolve_of_ne other, ih]

theorem notMem (h : Spells content text) {c : Char} (bracket : c ∈ ['<', '>']) : c ∉ content := by
  have special : c ∈ markup := List.mem_cons_of_mem _ bracket
  have other : c ≠ '&' := by
    rintro rfl
    exact absurd bracket (by decide)
  induction h with
  | nil => exact List.not_mem_nil
  | entity e rest ih => simp [other, e.notMem_name special, ih]
  | literal d h rest ih =>
    have apart : c ≠ d := fun same => h (same ▸ special)
    simp [apart, ih]

/-- An ampersand does not stand in a word that has none. -/
theorem suffix_of_append {word rest after : List Char} (plain : '&' ∉ word)
    (h : '&' :: after <:+ word ++ rest) : '&' :: after <:+ rest := by
  induction word with
  | nil => exact h
  | cons c word ih =>
    obtain ⟨other, plain⟩ := List.ne_and_not_mem_of_not_mem_cons plain
    rcases List.suffix_cons_iff.mp h with same | behind
    · exact absurd (List.cons.inj same).1 other
    · exact ih plain behind

theorem name_prefix (h : Spells content text) {after : List Char}
    (stands : '&' :: after <:+ content) : ∃ e : Entity, e.name <+: after := by
  induction h with
  | nil => exact absurd (List.suffix_nil.mp stands) (List.cons_ne_nil _ _)
  | entity e rest ih =>
    rcases List.suffix_cons_iff.mp stands with first | behind
    · exact ⟨e, (List.cons.inj first).2 ▸ List.prefix_append _ _⟩
    · exact ih (suffix_of_append (e.notMem_name (by decide)) behind)
  | literal c h rest ih =>
    rcases List.suffix_cons_iff.mp stands with first | behind
    · exact absurd ((List.cons.inj first).1 ▸ by decide) h
    · exact ih behind

end Spells

/-! ## Lines -/

theorem escape_append (a b : List Char) : escape (a ++ b) = escape a ++ escape b := by
  simp only [escape, replace, List.flatMap_append]

theorem escape_of_notMem {c : Char} (h : c ∉ markup) : escape [c] = [c] := by
  simp only [markup, List.mem_cons, List.not_mem_nil, or_false, not_or] at h
  simp [escape, replace, h]

/-- A line is spelled by what the three replacements make of it. -/
theorem spells_escape (line : List Char) : Spells (escape line) line := by
  induction line with
  | nil => exact .nil
  | cons c rest ih =>
    have first : escape (c :: rest) = escape [c] ++ escape rest := escape_append [c] rest
    rw [first]
    by_cases special : c ∈ markup
    · simp only [markup, List.mem_cons, List.not_mem_nil, or_false] at special
      rcases special with rfl | rfl | rfl
      · exact .entity .amp ih
      · exact .entity .lt ih
      · exact .entity .gt ih
    · rw [escape_of_notMem special]
      exact .literal c special ih

/-- What is read of a line: a space that keeps its height, if it is empty. -/
def visible (line : List Char) : List Char := if line = [] then [Entity.nbsp.char] else line

theorem spells_escapeLine (line : List Char) : Spells (escapeLine line) (visible line) := by
  cases line with
  | nil => exact .entity .nbsp .nil
  | cons c rest => exact spells_escape (c :: rest)

/-- The space of an empty line is spelled with an entity, the same character in a line is not. -/
theorem escapeLine_injective {a b : List Char} (h : escapeLine a = escapeLine b) : a = b := by
  have same : visible a = visible b := by
    rw [← (spells_escapeLine a).resolve_eq, h, (spells_escapeLine b).resolve_eq]
  have apart : escapeLine [] ≠ escapeLine [Entity.nbsp.char] := by decide
  unfold visible at same
  by_cases ha : a = [] <;> by_cases hb : b = []
  · rw [ha, hb]
  · rw [if_pos ha, if_neg hb] at same
    exact absurd h (ha ▸ same ▸ apart)
  · rw [if_neg ha, if_pos hb] at same
    exact absurd h.symm (hb ▸ same ▸ apart)
  · rwa [if_neg ha, if_neg hb] at same

example : escapeLine "&nbsp;".toList = "&amp;nbsp;".toList := by decide

/-! ## Pages -/

/-- A paragraph with a given content. -/
def frame (content : List Char) : List Char :=
  "<p style=\"margin: 0 0 10px 0;\">".toList ++ content ++ "</p>".toList

/-- The HTML of paragraphs with given contents. -/
def page (contents : List (List Char)) : List Char :=
  "<div style=\"font-family: Arial, sans-serif; line-height: 1.6;\">".toList
    ++ contents.flatMap frame ++ "</div>".toList

theorem toList_ofText (text : String) :
    (ofText text).toList = page ((Text.split '\n' text.toList).map escapeLine) := by
  refine String.toList_ofList.trans ?_
  unfold page
  rw [List.flatMap_map]
  rfl

/-- A content without tags ends where the next tag begins. -/
theorem content_inj {a b r s : List Char} (ha : '<' ∉ a) (hb : '<' ∉ b)
    (h : a ++ '<' :: r = b ++ '<' :: s) : a = b ∧ r = s := by
  have parts := congrArg (Text.split '<') h
  rw [Text.split_append ha, Text.split_append hb] at parts
  obtain ⟨rfl, -⟩ := List.cons.inj parts
  exact ⟨rfl, (List.cons.inj (List.append_cancel_left h)).2⟩

theorem frame_eq (content : List Char) :
    frame content = '<' :: 'p' :: (" style=\"margin: 0 0 10px 0;\">".toList ++
      (content ++ '<' :: "/p>".toList)) := by
  unfold frame
  simp

/-- Behind a paragraph there is another one or the end, as the second character tells. -/
theorem elements_inj {element : List Char → List Char} {opening closing ending : List Char}
    (shape : ∀ content, element content = '<' :: 'p' :: (opening ++ (content ++ '<' :: closing)))
    {as bs : List (List Char)} (ha : ∀ a ∈ as, '<' ∉ a) (hb : ∀ b ∈ bs, '<' ∉ b)
    (h : as.flatMap element ++ '<' :: '/' :: ending =
      bs.flatMap element ++ '<' :: '/' :: ending) : as = bs := by
  induction as generalizing bs with
  | nil =>
    cases bs with
    | nil => rfl
    | cons b bs => simp [shape] at h
  | cons a as ih =>
    cases bs with
    | nil => simp [shape] at h
    | cons b bs =>
      rw [List.forall_mem_cons] at ha hb
      simp only [List.flatMap_cons, shape, List.cons_append, List.append_assoc, List.cons.injEq,
        true_and, List.append_cancel_left_eq] at h
      obtain ⟨rfl, rest⟩ := content_inj ha.1 hb.1 h
      rw [ih ha.2 hb.2 (List.append_cancel_left rest)]

theorem page_inj {as bs : List (List Char)} (ha : ∀ a ∈ as, '<' ∉ a) (hb : ∀ b ∈ bs, '<' ∉ b)
    (h : page as = page bs) : as = bs := by
  have ending : "</div>".toList = '<' :: '/' :: "div>".toList := by simp
  unfold page at h
  rw [ending, List.append_assoc, List.append_assoc] at h
  exact elements_inj frame_eq ha hb (List.append_cancel_left h)

/-! ## Texts -/

/-- A content shows a line: there are no brackets in it, and ampersands only where entities begin;
    when these are read, it is the line, or the space that stands for an empty one. -/
structure Shows (content line : List Char) : Prop where
  noBrackets : '<' ∉ content ∧ '>' ∉ content
  entities : ∀ after, '&' :: after <:+ content → ∃ e : Entity, e.name <+: after
  resolved : resolve content = visible line

theorem shows_escapeLine (line : List Char) : Shows (escapeLine line) line :=
  have spells := spells_escapeLine line
  ⟨⟨spells.notMem (by decide), spells.notMem (by decide)⟩, fun _ => spells.name_prefix,
    spells.resolve_eq⟩

/-- The HTML of a text is a page of as many paragraphs as the text has lines, and each of them
    shows its line. No two texts have the same HTML. -/
theorem text_is_shown_unaltered :
    (∀ text : String, ∃ lines contents : List (List Char),
      lines ≠ [] ∧ ['\n'].intercalate lines = text.toList ∧ (∀ line ∈ lines, '\n' ∉ line) ∧
      (ofText text).toList = page contents ∧ List.Forall₂ Shows contents lines) ∧
    Function.Injective ofText := by
  constructor
  · intro text
    refine ⟨Text.split '\n' text.toList, (Text.split '\n' text.toList).map escapeLine,
      Text.split_ne_nil _ _, Text.intercalate_split _ _, Text.notMem_of_mem_split,
      toList_ofText text, ?_⟩
    rw [List.forall₂_map_left_iff, List.forall₂_same]
    exact fun line _ => shows_escapeLine line
  · intro text text' same
    have pages := congrArg String.toList same
    rw [toList_ofText, toList_ofText] at pages
    have noBrackets (cs : List Char) : ∀ content ∈ (Text.split '\n' cs).map escapeLine,
        '<' ∉ content := by
      simp only [List.forall_mem_map]
      exact fun line _ => (shows_escapeLine line).noBrackets.1
    have contents := page_inj (noBrackets text.toList) (noBrackets text'.toList) pages
    have lines := List.map_injective_iff.mpr (fun _ _ => escapeLine_injective) contents
    rw [← String.toList_inj, ← Text.intercalate_split '\n' text.toList, lines,
      Text.intercalate_split]

end OfferBook.Html
