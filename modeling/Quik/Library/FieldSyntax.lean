import Mathlib.Data.List.Infix
import Mathlib.Data.List.TakeWhile
import Mathlib.Tactic.Common

/-!
# Syntax of Field Values

The part of the HTTP field grammar that lists are made of: tokens, optional
white space, comma-separated lists, quoted strings. Nothing here names a
particular field. A value is a list of characters, and a field is a list of
such values, one for each line it came in.

There are two ways of taking a list apart. `fieldList` is for lists of tokens:
every comma separates. `splitUnquoted` is for lists whose elements may contain
quoted strings: a separator inside quotes does not count.

The lemmas about `fieldList` compare its elements with a substring test. An
element is a part of its line, and a word of token characters that occurs in a
line lies within one element: neither a comma nor white space can cut it. The
lemmas about quoted strings are the way back: what is joined is cut apart
again, and what is quoted is read.

## Main definitions

* `isTchar`, `isOws`, `trimOws`: Token characters and white space.
* `fieldList`: The elements of a comma-separated list over several lines.
* `splitUnquoted`: Cutting at a separator outside quotes.
* `Passes`: A text without such a separator.
* `quote`, `quotedString?`: Writing and reading a quoted string.
* `namedValue?`: Reading a name and a value.

## Theorems

* `infix_of_mem_fieldList`, `mem_fieldList_of_infix`: Elements and substrings.
* `trimOws_padded`: White space around a word is taken off.
* `splitUnquoted_intercalate`: What is joined is cut apart again.
* `quotedString?_quote`: What is quoted is read back.
* `mapM_eq_some_iff`: A list is read element by element.
-/

namespace Quik

namespace FieldSyntax

/-- A character of a token. -/
def isTchar (c : Char) : Bool :=
  c.isAlphanum || "!#$%&'*+-.^_`|~".toList.contains c

/-- Optional white space: a space or a tab. -/
def isOws (c : Char) : Bool :=
  c = ' ' || c = '\t'

/-- A value without the white space around it. -/
def trimOws (l : List Char) : List Char :=
  ((l.dropWhile isOws).reverse.dropWhile isOws).reverse

/-- The elements of a comma-separated list, over all its lines; empty elements
    do not count. -/
def fieldList (lines : List (List Char)) : List (List Char) :=
  (lines.flatMap (fun l => (l.splitOn ',').map trimOws)).filter (fun e => !e.isEmpty)

section Infix

theorem trimOws_sub (l : List Char) : trimOws l <:+: l := by
  have hback : ((l.dropWhile isOws).reverse.dropWhile isOws).reverse <+: l.dropWhile isOws := by
    rw [← List.reverse_suffix, List.reverse_reverse]
    exact List.dropWhile_suffix _
  exact hback.isInfix.trans (List.dropWhile_suffix _).isInfix

/-- A word without white space that occurs in a value occurs in what is left
    of it after trimming. -/
theorem infix_trimOws {w l : List Char} (hne : w ≠ []) (hw : ∀ c ∈ w, isOws c = false)
    (h : w <:+: l) : w <:+: trimOws l := by
  have hdrop : ∀ {l : List Char} {w : List Char}, w ≠ [] → (∀ c ∈ w, isOws c = false) →
      w <:+: l → w <:+: l.dropWhile isOws := by
    intro l
    induction l with
    | nil => exact fun _ _ h => h
    | cons c l ih =>
        intro w hne hw h
        by_cases hc : isOws c = true
        · rw [List.dropWhile_cons_of_pos hc]
          refine ih hne hw ?_
          -- The word does not begin with white space, so it lies in the rest.
          rcases List.infix_cons_iff.mp h with hpre | hin
          · cases w with
            | nil => exact absurd rfl hne
            | cons d w =>
                rcases List.cons_prefix_cons.mp hpre with ⟨rfl, _⟩
                exact absurd (hw d List.mem_cons_self) (by rw [hc]; exact Bool.noConfusion)
          · exact hin
        · rw [List.dropWhile_cons_of_neg hc]
          exact h
  have hrev : w.reverse <:+: ((l.dropWhile isOws).reverse.dropWhile isOws) := by
    refine hdrop (by simpa only [ne_eq, List.reverse_eq_nil_iff] using hne) ?_
      (List.reverse_infix.mpr (hdrop hne hw h))
    exact fun c hc => hw c (List.mem_reverse.mp hc)
  have h' := List.reverse_infix.mpr hrev
  rwa [List.reverse_reverse] at h'

/-- A piece of a joined list is a part of it. -/
theorem infix_intercalate {xs : List (List Char)} {e : List Char} (sep : List Char) (h : e ∈ xs) :
    e <:+: sep.intercalate xs := by
  induction xs with
  | nil => exact absurd h List.not_mem_nil
  | cons x rest ih =>
      cases rest with
      | nil =>
          rw [List.mem_singleton.mp h, List.intercalate_singleton]
      | cons y rest =>
          rw [List.intercalate_cons_cons, List.append_assoc]
          rcases List.mem_cons.mp h with rfl | h
          · exact List.infix_append_left
          · exact List.infix_append_of_infix_right (List.infix_append_of_infix_right (ih h))

/-- Lists that are joined, joined, are the whole list joined. -/
theorem intercalate_flatten {sep : List Char} {xss : List (List (List Char))}
    (h : ∀ xs ∈ xss, xs ≠ []) :
    sep.intercalate (xss.map sep.intercalate) = sep.intercalate xss.flatten := by
  -- An empty list would leave out a separator, so none of them is.
  have happend : ∀ xs ys : List (List Char), xs ≠ [] → ys ≠ [] →
      sep.intercalate (xs ++ ys) = sep.intercalate xs ++ sep ++ sep.intercalate ys := by
    intro xs ys hxs hys
    induction xs with
    | nil => exact absurd rfl hxs
    | cons x xs ih =>
        cases xs with
        | nil =>
            rw [List.singleton_append, List.intercalate_cons_of_ne_nil hys,
              List.intercalate_singleton]
        | cons x' xs =>
            rw [List.cons_append, List.cons_append, List.intercalate_cons_cons,
              List.intercalate_cons_cons, ← List.cons_append, ih (List.cons_ne_nil x' xs)]
            simp only [List.append_assoc]
  induction xss with
  | nil => rfl
  | cons xs xss ih =>
      have hxs := h xs List.mem_cons_self
      have hrest := fun ys hys => h ys (List.mem_cons_of_mem xs hys)
      cases xss with
      | nil => rw [List.map_singleton, List.intercalate_singleton, List.flatten_singleton]
      | cons ys yss =>
          have hne : (ys :: yss).flatten ≠ [] := by
            rw [List.flatten_cons]
            exact List.append_ne_nil_of_left_ne_nil (hrest ys List.mem_cons_self) _
          rw [List.map_cons, List.intercalate_cons_of_ne_nil (by
            rw [List.map_cons]
            exact List.cons_ne_nil _ _), ih hrest, ← happend _ _ hxs hne]
          rfl

/-- A word without the separator that occurs in a joined list occurs in one of
    its pieces. -/
theorem exists_of_infix_intercalate {xs : List (List Char)} {w : List Char} {sep : Char}
    (hne : w ≠ []) (hw : sep ∉ w) (h : w <:+: [sep].intercalate xs) : ∃ e ∈ xs, w <:+: e := by
  induction xs with
  | nil => exact absurd (List.infix_nil.mp h) hne
  | cons x rest ih =>
      cases rest with
      | nil =>
          rw [List.intercalate_singleton] at h
          exact ⟨x, List.mem_cons_self, h⟩
      | cons y rest =>
          rw [List.intercalate_cons_cons, List.append_assoc, List.singleton_append] at h
          -- The word lies before the separator, after it, or across it.
          rcases List.infix_append_iff.mp h with h | h | ⟨w₁, w₂, rfl, h₁, h₂⟩
          · exact ⟨x, List.mem_cons_self, h⟩
          · -- In the rest, since it cannot begin with the separator.
            rcases List.infix_cons_iff.mp h with h | h
            · rcases List.prefix_cons_iff.mp h with rfl | ⟨_, rfl, _⟩
              · exact absurd rfl hne
              · exact absurd List.mem_cons_self hw
            · rcases ih h with ⟨e, he, hin⟩
              exact ⟨e, List.mem_cons_of_mem x he, hin⟩
          · -- Across the separator, which it does not contain.
            rcases List.prefix_cons_iff.mp h₂ with rfl | ⟨_, rfl, _⟩
            · rw [List.append_nil]
              exact ⟨x, List.mem_cons_self, h₁.isInfix⟩
            · exact absurd (List.mem_append_right w₁ List.mem_cons_self) hw

theorem mem_fieldList {lines : List (List Char)} {e : List Char} : e ∈ fieldList lines ↔
    e ≠ [] ∧ ∃ l ∈ lines, ∃ piece ∈ l.splitOn ',', trimOws piece = e := by
  simp only [fieldList, List.mem_filter, List.mem_flatMap, List.mem_map, Bool.not_eq_true',
    List.isEmpty_eq_false_iff, ne_eq, and_comm]

/-- An element is a part of its line. -/
theorem infix_of_mem_fieldList {lines : List (List Char)} {e : List Char}
    (h : e ∈ fieldList lines) : ∃ l ∈ lines, e <:+: l := by
  rcases mem_fieldList.mp h with ⟨_, l, hl, piece, hpiece, rfl⟩
  refine ⟨l, hl, (trimOws_sub piece).trans ?_⟩
  have hin := infix_intercalate [','] hpiece
  rwa [List.intercalate_splitOn] at hin

theorem isTchar_not_ows {c : Char} (h : isTchar c = true) : isOws c = false := by
  rw [Bool.eq_false_iff]
  intro hows
  rcases Bool.or_eq_true_iff.mp hows with hc | hc <;>
    exact absurd h (by rw [of_decide_eq_true hc]; decide)

/-- A word of token characters that occurs in a line occurs in an element. -/
theorem mem_fieldList_of_infix {lines : List (List Char)} {w l : List Char} (hne : w ≠ [])
    (hw : ∀ c ∈ w, isTchar c = true) (hl : l ∈ lines) (h : w <:+: l) :
    ∃ e ∈ fieldList lines, w <:+: e := by
  have hline : l = [','].intercalate (l.splitOn ',') := (List.intercalate_splitOn ',').symm
  rw [hline] at h
  have hcomma : ',' ∉ w := fun hc => absurd (hw ',' hc) (by decide)
  rcases exists_of_infix_intercalate hne hcomma h with ⟨piece, hpiece, hin⟩
  have htrim := infix_trimOws hne (fun c hc => isTchar_not_ows (hw c hc)) hin
  refine ⟨trimOws piece, mem_fieldList.mpr ⟨?_, l, hl, piece, hpiece, rfl⟩, htrim⟩
  intro hnil
  rw [hnil] at htrim
  exact hne (List.infix_nil.mp htrim)

end Infix

section Padding

/-- A text that neither begins nor ends with white space. -/
def Trimmed (l : List Char) : Prop :=
  (∀ c ∈ l.head?, isOws c = false) ∧ ∀ c ∈ l.getLast?, isOws c = false

theorem trimmed_of_forall {l : List Char} (h : ∀ c ∈ l, isOws c = false) : Trimmed l :=
  ⟨fun c hc => h c (List.mem_of_head? hc), fun c hc => h c (List.mem_of_getLast? hc)⟩

theorem trimmed_nil : Trimmed [] :=
  trimmed_of_forall (fun _ hc => absurd hc List.not_mem_nil)

theorem dropWhile_padding {a l : List Char} (ha : ∀ c ∈ a, isOws c = true)
    (hl : ∀ c ∈ l.head?, isOws c = false) : (a ++ l).dropWhile isOws = l := by
  rw [List.dropWhile_append_of_pos ha]
  cases l with
  | nil => rfl
  | cons c l => exact List.dropWhile_cons_of_neg (by rw [hl c rfl]; exact Bool.false_ne_true)

/-- White space around a trimmed text is taken off. -/
theorem trimOws_padded {a l b : List Char} (ha : ∀ c ∈ a, isOws c = true)
    (hb : ∀ c ∈ b, isOws c = true) (hl : Trimmed l) : trimOws (a ++ l ++ b) = l := by
  rw [trimOws, List.append_assoc]
  cases l with
  | nil =>
      have hall : ∀ c ∈ a ++ b, isOws c = true := by
        intro c hc
        rcases List.mem_append.mp hc with hc | hc
        · exact ha c hc
        · exact hb c hc
      rw [List.nil_append, List.dropWhile_eq_nil_iff.mpr hall]
      rfl
  | cons c l =>
      rw [dropWhile_padding ha (by exact hl.1), List.reverse_append, dropWhile_padding
        (fun d hd => hb d (List.mem_reverse.mp hd)), List.reverse_reverse]
      rw [List.head?_reverse]
      exact hl.2

end Padding

section Quoted

/-- Where a reader stands: outside quotes, inside, or after a backslash. -/
inductive Quoting where
  | plain
  | quoted
  | escaped
deriving DecidableEq

/-- Past one character. -/
def Quoting.next : Quoting → Char → Quoting
  | .plain, c => if c = '"' then .quoted else .plain
  | .quoted, c => if c = '"' then .plain else if c = '\\' then .escaped else .quoted
  | .escaped, _ => .quoted

/-- The pieces of a text between the separators outside quotes. -/
def splitFrom (sep : Char) : Quoting → List Char → List (List Char)
  | _, [] => [[]]
  | q, c :: l =>
    if q = .plain ∧ c = sep then [] :: splitFrom sep .plain l
    else (splitFrom sep (q.next c) l).modifyHead (c :: ·)

def splitUnquoted (sep : Char) (l : List Char) : List (List Char) :=
  splitFrom sep .plain l

/-- A reader comes from one place to another through a text and meets no
    separator outside quotes. -/
def Passes (sep : Char) : Quoting → List Char → Quoting → Prop
  | q, [], q' => q = q'
  | q, c :: l, q' => ¬(q = .plain ∧ c = sep) ∧ Passes sep (q.next c) l q'

theorem Passes.append {sep : Char} {l m : List Char} {q' q'' : Quoting} (hm : Passes sep q' m q'') :
    ∀ {q : Quoting}, Passes sep q l q' → Passes sep q (l ++ m) q'' := by
  induction l with
  | nil =>
      intro q h
      rw [Passes] at h
      exact h ▸ hm
  | cons c l ih => exact fun h => ⟨h.1, ih h.2⟩

/-- Plain text passes if it has neither the separator nor quotes in it. -/
theorem passes_plain {sep : Char} {l : List Char} (h : ∀ c ∈ l, c ≠ sep ∧ c ≠ '"') :
    Passes sep .plain l .plain := by
  induction l with
  | nil => rfl
  | cons c l ih =>
      rcases h c List.mem_cons_self with ⟨hsep, hquote⟩
      refine ⟨fun hc => hsep hc.2, ?_⟩
      rw [Quoting.next, if_neg hquote]
      exact ih (fun d hd => h d (List.mem_cons_of_mem c hd))

theorem splitFrom_passes {sep : Char} {l : List Char} {q' : Quoting} :
    ∀ {q : Quoting}, Passes sep q l q' → splitFrom sep q l = [l] := by
  induction l with
  | nil => exact fun _ => rfl
  | cons c l ih =>
      intro q h
      rw [splitFrom, if_neg h.1, ih h.2]
      rfl

theorem splitFrom_append {sep : Char} {l rest : List Char} :
    ∀ {q : Quoting}, Passes sep q l .plain →
      splitFrom sep q (l ++ sep :: rest) = l :: splitUnquoted sep rest := by
  induction l with
  | nil =>
      intro q h
      rw [Passes] at h
      rw [List.nil_append, splitFrom, if_pos ⟨h, rfl⟩]
      rfl
  | cons c l ih =>
      intro q h
      rw [List.cons_append, splitFrom, if_neg h.1, ih h.2]
      rfl

/-- What is joined by a separator is cut apart again. -/
theorem splitUnquoted_intercalate {sep : Char} {pieces : List (List Char)} (hne : pieces ≠ [])
    (h : ∀ p ∈ pieces, Passes sep .plain p .plain) :
    splitUnquoted sep ([sep].intercalate pieces) = pieces := by
  induction pieces with
  | nil => exact absurd rfl hne
  | cons p rest ih =>
      have hp := h p List.mem_cons_self
      cases rest with
      | nil =>
          rw [List.intercalate_singleton]
          exact splitFrom_passes hp
      | cons p' rest =>
          rw [List.intercalate_cons_cons, List.append_assoc, List.singleton_append, splitUnquoted,
            splitFrom_append hp,
            ih (List.cons_ne_nil p' rest) (fun x hx => h x (List.mem_cons_of_mem p hx))]

theorem splitFrom_ne_nil (sep : Char) (l : List Char) :
    ∀ q : Quoting, splitFrom sep q l ≠ [] := by
  induction l with
  | nil => exact fun _ => List.cons_ne_nil _ _
  | cons c l ih =>
      intro q
      rw [splitFrom]
      split
      · exact List.cons_ne_nil _ _
      · intro h
        rcases List.exists_cons_of_ne_nil (ih (q.next c)) with ⟨x, xs, hx⟩
        rw [hx] at h
        exact absurd h (List.cons_ne_nil _ _)

/-- The pieces, joined again, are the text. -/
theorem intercalate_splitFrom (sep : Char) (l : List Char) :
    ∀ q : Quoting, [sep].intercalate (splitFrom sep q l) = l := by
  induction l with
  | nil => exact fun _ => List.intercalate_singleton
  | cons c l ih =>
      intro q
      rw [splitFrom]
      split
      · rename_i hc
        rw [List.intercalate_cons_of_ne_nil (splitFrom_ne_nil sep l .plain), ih, hc.2]
        rfl
      · have hrest := ih (q.next c)
        rcases List.exists_cons_of_ne_nil (splitFrom_ne_nil sep l (q.next c)) with ⟨x, xs, hx⟩
        rw [hx] at hrest ⊢
        rw [List.modifyHead_cons]
        cases xs with
        | nil =>
            rw [List.intercalate_singleton] at hrest ⊢
            rw [hrest]
        | cons y ys =>
            rw [List.intercalate_cons_cons] at hrest ⊢
            rw [List.cons_append, List.cons_append, hrest]

/-- A piece is a part of the text. -/
theorem infix_of_mem_splitUnquoted {sep : Char} {l p : List Char} (h : p ∈ splitUnquoted sep l) :
    p <:+: l := by
  have hin := infix_intercalate [sep] h
  rwa [splitUnquoted, intercalate_splitFrom] at hin

/-- A character inside quotes, as it is written. -/
def escape (c : Char) : List Char :=
  if c = '"' ∨ c = '\\' then ['\\', c] else [c]

/-- A text between quotes. -/
def quote (s : List Char) : List Char :=
  '"' :: (s.flatMap escape ++ ['"'])

/-- The text up to the closing quotes, which must come last. -/
def unquote : List Char → Option (List Char)
  | [] => none
  | [c] => if c = '"' then some [] else none
  | c :: d :: l =>
    if c = '\\' then (unquote l).map (d :: ·)
    else if c = '"' then none
    else (unquote (d :: l)).map (c :: ·)

def quotedString? : List Char → Option (List Char)
  | [] => none
  | c :: l => if c = '"' then unquote l else none

theorem unquote_escape (s : List Char) : unquote (s.flatMap escape ++ ['"']) = some s := by
  induction s with
  | nil => rfl
  | cons c s ih =>
      rw [List.flatMap_cons, escape]
      split
      · rw [List.append_assoc, List.cons_append, List.cons_append, List.nil_append, unquote,
          if_pos rfl, ih]
        rfl
      · rename_i hc
        rw [not_or] at hc
        rw [List.append_assoc, List.singleton_append]
        rcases List.exists_cons_of_ne_nil (List.append_ne_nil_of_right_ne_nil (s.flatMap escape)
          (List.cons_ne_nil '"' [])) with ⟨d, l, hl⟩
        rw [hl] at ih ⊢
        rw [unquote, if_neg hc.2, if_neg hc.1, ih]
        rfl

/-- What is quoted is read back. -/
theorem quotedString?_quote (s : List Char) : quotedString? (quote s) = some s := by
  rw [quote, quotedString?, if_pos rfl, unquote_escape]

/-- A quoted text passes whatever is in it. -/
theorem passes_quote {sep : Char} (hsep : sep ≠ '"') (s : List Char) :
    Passes sep .plain (quote s) .plain := by
  have hbody : ∀ s : List Char, Passes sep .quoted (s.flatMap escape) .quoted := by
    intro s
    induction s with
    | nil => rfl
    | cons c s ih =>
        rw [List.flatMap_cons]
        refine ih.append ?_
        rw [escape]
        split
        · exact ⟨fun h => Quoting.noConfusion h.1, fun h => Quoting.noConfusion h.1, rfl⟩
        · rename_i hc
          rw [not_or] at hc
          refine ⟨fun h => Quoting.noConfusion h.1, ?_⟩
          rw [Quoting.next, if_neg hc.1, if_neg hc.2]
          rfl
  refine ⟨fun h => hsep h.2.symm, Passes.append ?_ (hbody s)⟩
  exact ⟨fun h => Quoting.noConfusion h.1, rfl⟩

end Quoted

section Pairs

/-- A token. -/
def IsToken (l : List Char) : Prop :=
  l ≠ [] ∧ ∀ c ∈ l, isTchar c = true

def token? (l : List Char) : Option (List Char) :=
  if !l.isEmpty && l.all isTchar then some l else none

/-- A token, or the content of a quoted string. -/
def tokenOrQuoted? (l : List Char) : Option (List Char) :=
  (token? l).or (quotedString? l)

/-- A token, an equals sign, and what `value?` reads. -/
def namedValue? (value? : List Char → Option (List Char)) (l : List Char) :
    Option (List Char × List Char) :=
  match l.takeWhile isTchar, l.dropWhile isTchar with
  | n :: name, '=' :: value => (value? value).map (fun x => (n :: name, x))
  | _, _ => none

theorem token?_eq_some {l : List Char} (h : IsToken l) : token? l = some l := by
  have hne : l.isEmpty = false := List.isEmpty_eq_false_iff.mpr h.1
  rw [token?, hne, List.all_eq_true.mpr h.2]
  rfl

theorem tokenOrQuoted?_token {l : List Char} (h : IsToken l) : tokenOrQuoted? l = some l := by
  rw [tokenOrQuoted?, token?_eq_some h]
  rfl

theorem tokenOrQuoted?_quote (s : List Char) : tokenOrQuoted? (quote s) = some s := by
  have hquote : token? (quote s) = none := by
    rw [token?, quote, List.all_cons]
    rfl
  rw [tokenOrQuoted?, hquote, quotedString?_quote]
  rfl

/-- A name and a value that is read are read as a pair. -/
theorem namedValue?_join {value? : List Char → Option (List Char)} {name l x : List Char}
    (hname : IsToken name) (hvalue : value? l = some x) :
    namedValue? value? (name ++ '=' :: l) = some (name, x) := by
  have htake : (name ++ '=' :: l).takeWhile isTchar = name := by
    rw [List.takeWhile_append_of_pos hname.2, List.takeWhile_cons_of_neg (by decide),
      List.append_nil]
  have hdrop : (name ++ '=' :: l).dropWhile isTchar = '=' :: l := by
    rw [List.dropWhile_append_of_pos hname.2, List.dropWhile_cons_of_neg (by decide)]
  rw [namedValue?, htake, hdrop]
  cases name with
  | nil => exact absurd rfl hname.1
  | cons n name =>
      simp only [hvalue, Option.map_some]

/-- The name that is read begins the text. -/
theorem namedValue?_name {value? : List Char → Option (List Char)} {l name x : List Char}
    (h : namedValue? value? l = some (name, x)) : name <:+: l := by
  unfold namedValue? at h
  split at h
  · rename_i n rest _ htake _
    rcases Option.map_eq_some_iff.mp h with ⟨y, _, hy⟩
    rw [← (Prod.mk.inj hy).1, ← htake]
    exact (List.takeWhile_prefix _).isInfix
  · exact absurd h (by simp only [reduceCtorEq, not_false_eq_true])

theorem passes_token {sep : Char} {l : List Char} (hsep : isTchar sep = false)
    (h : ∀ c ∈ l, isTchar c = true) : Passes sep .plain l .plain := by
  refine passes_plain fun c hc => ⟨?_, ?_⟩
  · rintro rfl
    exact absurd (h c hc) (by rw [hsep]; exact Bool.false_ne_true)
  · rintro rfl
    exact absurd (h '"' hc) (by decide)

end Pairs

section Each

variable {α β : Type} {f : α → Option β} {xs : List α} {ys : List β}

/-- A list is read if each of its elements is. -/
theorem mapM_eq_some_iff :
    xs.mapM f = some ys ↔ List.Forall₂ (fun y x => f x = some y) ys xs := by
  constructor
  · intro h
    induction xs generalizing ys with
    | nil =>
        rw [List.mapM_nil] at h
        rw [← Option.some.inj h]
        exact .nil
    | cons x xs ih =>
        rw [List.mapM_cons] at h
        rcases Option.bind_eq_some_iff.mp h with ⟨b, hb, h⟩
        rcases Option.bind_eq_some_iff.mp h with ⟨bs, hbs, h⟩
        rw [← Option.some.inj h]
        exact .cons hb (ih hbs)
  · intro h
    induction h with
    | nil => rfl
    | cons hxy _ ih => rw [List.mapM_cons, hxy, ih]; rfl

theorem mem_of_mapM (h : xs.mapM f = some ys) {y : β} (hy : y ∈ ys) : ∃ x ∈ xs, f x = some y := by
  have hall := mapM_eq_some_iff.mp h
  clear h
  induction hall with
  | nil => exact absurd hy List.not_mem_nil
  | @cons b x ys xs hxy _ ih =>
      rcases List.mem_cons.mp hy with rfl | hy
      · exact ⟨x, List.mem_cons_self, hxy⟩
      · rcases ih hy with ⟨x', hx', hf⟩
        exact ⟨x', List.mem_cons_of_mem x hx', hf⟩

end Each

end FieldSyntax

end Quik
