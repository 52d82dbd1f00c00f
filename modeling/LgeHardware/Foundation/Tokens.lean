import Mathlib.Data.List.TakeWhile
import Mathlib.Tactic.Common

/-! # Splitting a text at its separators

The tokens of a text are its maximal runs without a separator. A regular expression
iterator that goes over the parts between the matches of one or more separators yields
the same list, but for an empty part where the text does not begin with a token.
-/

namespace LgeHardware.Foundation

universe u

variable {α : Type u} (sep : α → Bool)

/-! ## Tokens -/

/-- The maximal runs of a text without a separator. -/
def runs (text : List α) : List (List α) := (text.splitOnP sep).filter (!·.isEmpty)

/-- The text consists of the tokens in order, a separator or the end of the text behind each
of them, and of separators otherwise. -/
def Joined : List (List α) → List α → Prop
  | [], text => ∀ a ∈ text, sep a = true
  | token :: tokens, text => token ≠ [] ∧ (∀ a ∈ token, sep a = false) ∧
      ∃ gap rest, text = gap ++ (token ++ rest) ∧ (∀ a ∈ gap, sep a = true) ∧
        (∀ a ∈ rest.head?, sep a = true) ∧ Joined tokens rest

variable {sep}

@[simp] theorem runs_nil : runs sep [] = [] := rfl

theorem runs_append_of_sep {gap : List α} (hgap : ∀ a ∈ gap, sep a = true) (text : List α) :
    runs sep (gap ++ text) = runs sep text := by
  induction gap with
  | nil => rfl
  | cons a gap ih =>
      have ha := hgap a List.mem_cons_self
      rw [List.cons_append, runs, List.splitOnP_cons_eq_if_modifyHead, if_pos ha]
      exact ih fun b hb => hgap b (List.mem_cons_of_mem a hb)

/-- A token in front of a separator or of the end is the first run. -/
theorem runs_append_of_token {token : List α} (hne : token ≠ [])
    (htoken : ∀ a ∈ token, sep a = false) {rest : List α}
    (hrest : ∀ a ∈ rest.head?, sep a = true) :
    runs sep (token ++ rest) = token :: runs sep rest := by
  cases rest with
  | nil =>
      rw [List.append_nil, runs, List.splitOnP_eq_singleton htoken]
      simp [hne]
  | cons a rest =>
      have ha := hrest a rfl
      have hskip : runs sep (a :: rest) = runs sep rest :=
        runs_append_of_sep (List.forall_mem_singleton.mpr ha) rest
      rw [hskip, runs, List.splitOnP_append_cons_of_forall_mem htoken a ha]
      simp [hne, runs]

/-- A text has only one list of tokens. -/
theorem Joined.runs_eq {tokens : List (List α)} {text : List α} (h : Joined sep tokens text) :
    runs sep text = tokens := by
  induction tokens generalizing text with
  | nil => simpa using runs_append_of_sep h []
  | cons token tokens ih =>
      obtain ⟨hne, htoken, gap, rest, rfl, hgap, hrest, htokens⟩ := h
      rw [runs_append_of_sep hgap, runs_append_of_token hne htoken hrest, ih htokens]

theorem head?_dropWhile (p : α → Bool) (text : List α) :
    ∀ a ∈ (text.dropWhile p).head?, p a = false := by
  intro a ha
  have hdropped := List.head?_dropWhile_not p text
  rw [Option.mem_def.mp ha] at hdropped
  simpa using hdropped

/-- A text without a separator in front begins with a token. -/
theorem exists_token {text : List α} (hne : text ≠ []) (hhead : ∀ a ∈ text.head?, sep a = false) :
    ∃ token rest, text = token ++ rest ∧ token ≠ [] ∧ (∀ a ∈ token, sep a = false) ∧
      ∀ a ∈ rest.head?, sep a = true := by
  refine ⟨text.takeWhile (!sep ·), text.dropWhile (!sep ·),
    List.takeWhile_append_dropWhile.symm, ?_, ?_, ?_⟩
  · obtain ⟨a, rest, rfl⟩ := List.exists_cons_of_ne_nil hne
    have ha := hhead a rfl
    rw [List.takeWhile_cons_of_pos (by simpa using ha)]
    exact List.cons_ne_nil _ _
  · intro a ha
    simpa using List.mem_takeWhile_imp ha
  · intro a ha
    simpa using head?_dropWhile (!sep ·) text a ha

/-- The runs of a text are its tokens. -/
theorem joined_runs (text : List α) : Joined sep (runs sep text) text := by
  induction hlength : text.length using Nat.strong_induction_on generalizing text with
  | _ n ih =>
      have hsplit := List.takeWhile_append_dropWhile (p := sep) (l := text)
      have hgap : ∀ a ∈ text.takeWhile sep, sep a = true := fun a ha => List.mem_takeWhile_imp ha
      by_cases hnone : text.dropWhile sep = []
      · rw [hnone, List.append_nil] at hsplit
        rw [hsplit] at hgap
        have hruns := runs_append_of_sep hgap []
        rw [List.append_nil] at hruns
        rw [hruns]
        exact hgap
      · obtain ⟨token, rest, htext, hne, htoken, hrest⟩ :=
          exists_token hnone (head?_dropWhile sep text)
        rw [htext] at hsplit
        have hshorter : rest.length < n := by
          have hpos := List.length_pos_iff.mpr hne
          have hlengths := congrArg List.length hsplit
          rw [List.length_append, List.length_append] at hlengths
          omega
        rw [← hsplit, runs_append_of_sep hgap, runs_append_of_token hne htoken hrest]
        exact ⟨hne, htoken, _, rest, rfl, hgap, hrest, ih _ hshorter rest rfl⟩

/-- A text is made of tokens in one way only. -/
theorem joined_iff_runs_eq {tokens : List (List α)} {text : List α} :
    Joined sep tokens text ↔ runs sep text = tokens :=
  ⟨Joined.runs_eq, fun h => h ▸ joined_runs text⟩

/-! ## The iterator over the parts between matches -/

variable (sep)

/-- The search for one or more separators: the text before the first match and after it. -/
def regexSearch (text : List α) : Option (List α × List α) :=
  match text.dropWhile (!sep ·) with
  | [] => none
  | found => some (text.takeWhile (!sep ·), found.dropWhile sep)

variable {sep}

theorem regexSearch_eq_none {text : List α} (h : regexSearch sep text = none) :
    ∀ a ∈ text, sep a = false := by
  rw [regexSearch] at h
  split at h
  next hnone =>
    intro a ha
    simpa using List.dropWhile_eq_nil_iff.mp hnone a ha
  next => cases h

theorem regexSearch_eq_some {text before after : List α}
    (h : regexSearch sep text = some (before, after)) :
    ∃ gap, text = before ++ (gap ++ after) ∧ gap ≠ [] ∧ (∀ a ∈ gap, sep a = true) ∧
      (∀ a ∈ before, sep a = false) ∧ ∀ a ∈ after.head?, sep a = false := by
  rw [regexSearch] at h
  split at h
  next => cases h
  next hne =>
    cases h
    refine ⟨(text.dropWhile (!sep ·)).takeWhile sep, ?_, ?_, ?_, ?_, head?_dropWhile sep _⟩
    · rw [List.takeWhile_append_dropWhile, List.takeWhile_append_dropWhile]
    · obtain ⟨a, rest, hfound⟩ := List.exists_cons_of_ne_nil hne
      have ha : sep a = true := by
        simpa using head?_dropWhile (!sep ·) text a (by rw [hfound]; rfl)
      rw [hfound, List.takeWhile_cons_of_pos ha]
      exact List.cons_ne_nil _ _
    · exact fun a ha => List.mem_takeWhile_imp ha
    · intro a ha
      simpa using List.mem_takeWhile_imp ha

/-- What is behind a match is shorter than the text. -/
theorem length_of_regexSearch {text before after : List α}
    (h : regexSearch sep text = some (before, after)) : after.length < text.length := by
  obtain ⟨gap, rfl, hne, -⟩ := regexSearch_eq_some h
  have hpos := List.length_pos_iff.mpr hne
  rw [List.length_append, List.length_append]
  omega

variable (sep)

/-- The parts behind a match. A last part that is empty is left out. -/
def regexTokensAfter (suffix : List α) : List (List α) :=
  match h : regexSearch sep suffix with
  | some (before, after) =>
      have := length_of_regexSearch h
      before :: regexTokensAfter after
  | none => if suffix.isEmpty then [] else [suffix]
termination_by suffix.length

/-- The parts between the matches of one or more separators. Without a match the text is the
only part, even if it is empty. -/
def regexTokens (text : List α) : List (List α) :=
  match regexSearch sep text with
  | some (before, after) => before :: regexTokensAfter sep after
  | none => [text]

variable {sep}

/-- A match comes first, or the part before it is the first token. -/
theorem runs_of_regexSearch {text before after : List α}
    (h : regexSearch sep text = some (before, after)) :
    runs sep text = if before = [] then runs sep after else before :: runs sep after := by
  obtain ⟨gap, rfl, hne, hgap, hbefore, -⟩ := regexSearch_eq_some h
  split
  next hnone => rw [hnone, List.nil_append, runs_append_of_sep hgap]
  next hsome =>
    have hhead : ∀ a ∈ (gap ++ after).head?, sep a = true := by
      obtain ⟨first, rest, rfl⟩ := List.exists_cons_of_ne_nil hne
      rintro a ⟨⟩
      exact hgap first List.mem_cons_self
    rw [runs_append_of_token hsome hbefore hhead, runs_append_of_sep hgap]

/-- Without a match the text is a token or empty. -/
theorem runs_of_regexSearch_eq_none {text : List α} (h : regexSearch sep text = none) :
    runs sep text = if text.isEmpty then [] else [text] := by
  rw [runs, List.splitOnP_eq_singleton (regexSearch_eq_none h)]
  cases text <;> rfl

/-- Behind a match there are just the tokens. -/
theorem regexTokensAfter_eq_runs (suffix : List α) (hhead : ∀ a ∈ suffix.head?, sep a = false) :
    regexTokensAfter sep suffix = runs sep suffix := by
  fun_induction regexTokensAfter sep suffix with
  | case1 suffix before after h _ ih =>
      obtain ⟨gap, rfl, hne, hgap, -, hafter⟩ := regexSearch_eq_some h
      have hsome : before ≠ [] := by
        rintro rfl
        obtain ⟨a, rest, rfl⟩ := List.exists_cons_of_ne_nil hne
        exact Bool.false_ne_true ((hhead a rfl).symm.trans (hgap a List.mem_cons_self))
      rw [runs_of_regexSearch h, if_neg hsome, ih hafter]
  | case2 suffix h hempty => rw [runs_of_regexSearch_eq_none h, if_pos hempty]
  | case3 suffix h hsome => rw [runs_of_regexSearch_eq_none h, if_neg hsome]

/-- The parts of a text that begins with a token are its tokens. -/
theorem regexTokens_of_token {text : List α} (hhead : ∃ a ∈ text.head?, sep a = false) :
    regexTokens sep text = runs sep text := by
  obtain ⟨first, hfirst, hsep⟩ := hhead
  obtain ⟨rest, rfl⟩ := List.head?_eq_some_iff.mp hfirst
  rw [regexTokens]
  split
  next before after h =>
    obtain ⟨gap, htext, hne, hgap, -, hafter⟩ := regexSearch_eq_some h
    have hsome : before ≠ [] := by
      rintro rfl
      obtain ⟨a, others, rfl⟩ := List.exists_cons_of_ne_nil hne
      cases htext
      exact Bool.false_ne_true (hsep.symm.trans (hgap _ List.mem_cons_self))
    rw [runs_of_regexSearch h, if_neg hsome, regexTokensAfter_eq_runs after hafter]
  next h => rw [runs_of_regexSearch_eq_none h, if_neg (by simp)]

/-- The parts of any other text are its tokens behind an empty part. -/
theorem regexTokens_of_not_token {text : List α} (hhead : ∀ a ∈ text.head?, sep a = true) :
    regexTokens sep text = [] :: runs sep text := by
  rw [regexTokens]
  split
  next before after h =>
    obtain ⟨gap, htext, -, -, hbefore, hafter⟩ := regexSearch_eq_some h
    have hnone : before = [] := by
      cases before with
      | nil => rfl
      | cons a rest =>
          have ha := hhead a (by rw [htext]; rfl)
          exact absurd (ha.symm.trans (hbefore a List.mem_cons_self)) (by decide)
    rw [runs_of_regexSearch h, if_pos hnone, hnone, regexTokensAfter_eq_runs after hafter]
  next h =>
    cases text with
    | nil => rfl
    | cons a rest =>
        have ha := regexSearch_eq_none h a List.mem_cons_self
        exact absurd ((hhead a rfl).symm.trans ha) (by decide)

end LgeHardware.Foundation
