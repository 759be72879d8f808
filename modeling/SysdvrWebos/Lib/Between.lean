/-
Module: SysdvrWebos.Lib.Between
Layer: Lib
Purpose: The search for a part of a text that begins with one marker and reaches up to the next occurrence of
  another one: what a regular expression with a lazy middle matches. The leftmost match of a text is still
  the leftmost match when more text comes behind it.
Trusted boundary: none (fully proved)
Main exports: upTo, matchAt, search, upTo_append, search_spec, search_append
Open obligations: none
-/
import Mathlib.Data.List.Infix

namespace Between

variable {α : Type*} [DecidableEq α]

/-- The shortest front of the text that ends with the marker. -/
def upTo (stop : List α) : List α → Option (List α)
  | [] => none
  | x :: rest => if stop <+: x :: rest then some stop else (upTo stop rest).map (x :: ·)

/-- The match at the front of the text: the first marker, and what follows it up to the second one. -/
def matchAt (start stop text : List α) : Option (List α) :=
  if start <+: text then (upTo stop (text.drop start.length)).map (start ++ ·) else none

/-- The leftmost match in the text. -/
def search (start stop : List α) : List α → Option (List α)
  | [] => none
  | x :: rest =>
      match matchAt start stop (x :: rest) with
      | some found => some found
      | none => search start stop rest

variable {start stop text found : List α} {x : α}

/-! ### Up to a marker -/

/-- What is found ends with the marker and stands at the front. -/
theorem upTo_spec (reached : upTo stop text = some found) : stop <:+ found ∧ found <+: text := by
  induction text generalizing found with
  | nil => cases reached
  | cons x rest ih =>
      unfold upTo at reached
      split at reached
      · next here =>
          cases reached
          exact ⟨List.suffix_refl _, here⟩
      · obtain ⟨later, further, rfl⟩ := Option.map_eq_some_iff.mp reached
        obtain ⟨ends, front⟩ := ih further
        exact ⟨ends.trans (List.suffix_cons x later), List.cons_prefix_cons.mpr ⟨rfl, front⟩⟩

/-- Behind an occurrence of the marker nothing changes what is found. -/
theorem upTo_append (reached : upTo stop text = some found) (more : List α) :
    upTo stop (text ++ more) = some found := by
  induction text generalizing found with
  | nil => cases reached
  | cons x rest ih =>
      unfold upTo at reached
      rw [List.cons_append, upTo]
      split at reached
      · next here =>
          have still : stop <+: x :: (rest ++ more) := here.trans (List.prefix_append (x :: rest) more)
          rw [if_pos still]
          exact reached
      · next absent =>
          obtain ⟨later, further, rfl⟩ := Option.map_eq_some_iff.mp reached
          obtain ⟨ends, front⟩ := upTo_spec further
          have short : stop.length ≤ (x :: rest).length :=
            (ends.length_le.trans front.length_le).trans (Nat.le_succ _)
          have still : ¬ stop <+: x :: (rest ++ more) := fun reaches =>
            absent (List.prefix_of_prefix_length_le reaches (List.prefix_append (x :: rest) more) short)
          rw [if_neg still, ih further, Option.map_some]

/-- A text with the marker has a front that ends with it. -/
theorem upTo_isSome (nonempty : stop ≠ []) (inside : stop <:+: text) : ∃ found, upTo stop text = some found := by
  induction text with
  | nil => exact absurd (List.infix_nil.mp inside) nonempty
  | cons x rest ih =>
      unfold upTo
      split
      · exact ⟨stop, rfl⟩
      · next absent =>
          rcases List.infix_cons_iff.mp inside with here | later
          · exact absurd here absent
          · obtain ⟨found, reached⟩ := ih later
            exact ⟨x :: found, by rw [reached, Option.map_some]⟩

/-! ### Between the markers -/

theorem matchAt_spec (matched : matchAt start stop text = some found) :
    (∃ body, found = start ++ body ∧ stop <:+ body) ∧ found <+: text := by
  unfold matchAt at matched
  split at matched
  · next here =>
      obtain ⟨body, reached, rfl⟩ := Option.map_eq_some_iff.mp matched
      obtain ⟨ends, front⟩ := upTo_spec reached
      obtain ⟨rest, rfl⟩ := here
      rw [List.drop_left] at front
      exact ⟨⟨body, rfl, ends⟩, (List.prefix_append_right_inj start).mpr front⟩
  · cases matched

/-- What is found stands in the text, begins with the first marker and ends with the second one behind it. -/
theorem search_spec (matched : search start stop text = some found) :
    (∃ body, found = start ++ body ∧ stop <:+ body) ∧ found <:+: text := by
  induction text with
  | nil => cases matched
  | cons x rest ih =>
      unfold search at matched
      split at matched
      · next here =>
          cases matched
          obtain ⟨shape, front⟩ := matchAt_spec here
          exact ⟨shape, front.isInfix⟩
      · obtain ⟨shape, inside⟩ := ih matched
        exact ⟨shape, List.infix_cons inside⟩

theorem matchAt_append (matched : matchAt start stop text = some found) (more : List α) :
    matchAt start stop (text ++ more) = some found := by
  unfold matchAt at matched
  split at matched
  · next here =>
      obtain ⟨body, reached, rfl⟩ := Option.map_eq_some_iff.mp matched
      rw [matchAt, if_pos (here.trans (List.prefix_append text more)),
        List.drop_append_of_le_length here.length_le, upTo_append reached more, Option.map_some]
  · cases matched

/-- In front of a match there is no other one that only needs more text. -/
theorem matchAt_none_append (nonempty : stop ≠ []) (absent : matchAt start stop (x :: text) = none)
    (later : search start stop text = some found) (more : List α) :
    matchAt start stop (x :: (text ++ more)) = none := by
  obtain ⟨⟨body, rfl, ends⟩, inside⟩ := search_spec later
  have long : start.length ≤ text.length := by
    have length := inside.length_le
    rw [List.length_append] at length
    exact (Nat.le_add_right _ _).trans length
  apply if_neg
  intro reaches
  have here : start <+: x :: text :=
    List.prefix_of_prefix_length_le reaches (List.prefix_append (x :: text) more) (long.trans (Nat.le_succ _))
  -- the marker that ends the later match also stands behind the first marker here
  have behind : stop <:+: (x :: text).drop start.length := by
    obtain ⟨before, after, rfl⟩ := inside
    have whole : x :: (before ++ (start ++ body) ++ after) = (x :: before ++ start) ++ (body ++ after) := by
      simp
    have shorter : start.length ≤ (x :: before ++ start).length := by
      rw [List.length_append]
      exact Nat.le_add_left _ _
    rw [whole, List.drop_append_of_le_length shorter]
    exact (ends.isInfix.trans (List.prefix_append body after).isInfix).trans (List.suffix_append _ _).isInfix
  obtain ⟨reached, isReached⟩ := upTo_isSome nonempty behind
  rw [matchAt, if_pos here, isReached] at absent
  cases absent

/-- The leftmost match stays the leftmost one. -/
theorem search_append (nonempty : stop ≠ []) (matched : search start stop text = some found) (more : List α) :
    search start stop (text ++ more) = some found := by
  induction text with
  | nil => cases matched
  | cons x rest ih =>
      unfold search at matched
      rw [List.cons_append, search]
      split at matched
      · next here =>
          cases matched
          have still : matchAt start stop (x :: (rest ++ more)) = some found := matchAt_append here more
          rw [still]
      · next absent =>
          rw [matchAt_none_append nonempty absent matched more]
          exact ih matched

end Between
