import Mathlib.Data.List.Forall2
import Mathlib.Data.List.Nodup
import Mathlib.Data.List.FinRange

namespace GtnhPlatform

open List

/-! Giving every demand of a list a free place of its own. -/

variable {δ ι : Type} {serves : δ → ι → Prop} {free : ι → Prop} {demand : δ} {rest : List δ}
  {place : ι}

def Assignable (serves : δ → ι → Prop) (free : ι → Prop) (demands : List δ) : Prop :=
  ∃ places, List.Forall₂ serves demands places ∧ places.Nodup ∧ ∀ place ∈ places, free place

namespace Assignable

theorem nil : Assignable serves free [] := ⟨[], .nil, .nil, by simp⟩

theorem cons (served : serves demand place) (vacant : free place)
    (tail : Assignable serves (fun other => free other ∧ other ≠ place) rest) :
    Assignable serves free (demand :: rest) := by
  obtain ⟨places, serve, distinct, vacancies⟩ := tail
  refine ⟨place :: places, .cons served serve, ?_, ?_⟩
  · exact nodup_cons.mpr ⟨fun mem => (vacancies place mem).2 rfl, distinct⟩
  intro other mem
  rcases mem_cons.mp mem with rfl | mem
  · exact vacant
  · exact (vacancies other mem).1

theorem exists_place (assignable : Assignable serves free (demand :: rest)) :
    ∃ place, free place ∧ serves demand place := by
  obtain ⟨_, serve, _, vacancies⟩ := assignable
  cases serve with
  | cons served _ => exact ⟨_, vacancies _ mem_cons_self, served⟩

def Yields (serves : δ → ι → Prop) (earlier later : δ) : Prop :=
  (∀ place, serves earlier place → serves later place) ∨
    ∀ place, serves earlier place → ¬ serves later place

theorem exchange [DecidableEq ι] (ownServed : serves demand own) (served : serves demand place)
    {places : List ι} (yields : ∀ later ∈ rest, Yields serves demand later)
    (serve : List.Forall₂ serves rest places) :
    List.Forall₂ serves rest (places.map fun other => if other = place then own else other) := by
  induction serve with
  | nil => exact .nil
  | @cons later other _ _ otherServed _ ih =>
    rw [forall_mem_cons] at yields
    refine .cons ?_ (ih yields.2)
    beta_reduce
    split
    · next same =>
      rcases yields.1 with widens | parts
      · exact widens own ownServed
      · exact absurd (same ▸ otherServed) (parts place served)
    · exact otherServed

theorem claim (assignable : Assignable serves free (demand :: rest))
    (yields : ∀ later ∈ rest, Yields serves demand later) (served : serves demand place) :
    Assignable serves (fun other => free other ∧ other ≠ place) rest := by
  classical
  obtain ⟨places, serve, distinct, vacancies⟩ := assignable
  cases serve with
  | @cons _ own _ others ownServed serve =>
    obtain ⟨fresh, distinct⟩ := nodup_cons.mp distinct
    rw [forall_mem_cons] at vacancies
    by_cases taken : place ∈ others
    · have apart : own ≠ place := fun same => fresh (same ▸ taken)
      refine ⟨_, exchange ownServed served yields serve, ?_, ?_⟩
      · apply List.Nodup.map_on _ distinct
        intro first firstIn second secondIn same
        split at same <;> split at same
        · next firstEq secondEq => rw [firstEq, secondEq]
        · exact absurd (same ▸ secondIn) fresh
        · exact absurd (same ▸ firstIn) fresh
        · exact same
      · intro other mem
        obtain ⟨source, sourceIn, rfl⟩ := mem_map.mp mem
        split
        · exact ⟨vacancies.1, apart⟩
        · next differs => exact ⟨vacancies.2 source sourceIn, differs⟩
    · exact ⟨others, serve, distinct, fun other mem =>
        ⟨vacancies.2 other mem, fun same => taken (same ▸ mem)⟩⟩

theorem iff_injective {demands : List δ} : Assignable serves free demands ↔
      ∃ place : Fin demands.length → ι, Function.Injective place ∧
        ∀ i, free (place i) ∧ serves (demands.get i) (place i) := by
  constructor
  · rintro ⟨places, serve, distinct, vacancies⟩
    have long := serve.length_eq
    refine ⟨fun i => places.get (i.cast long), ?_, ?_⟩
    · intro first second same
      have injective := nodup_iff_injective_get.mp distinct same
      exact Fin.ext (Fin.mk.inj_iff.mp injective)
    · intro i
      exact ⟨vacancies _ (get_mem _ _), serve.get i.isLt (long ▸ i.isLt)⟩
  · rintro ⟨place, injective, serve⟩
    refine ⟨ofFn place, ?_, nodup_ofFn.mpr injective, ?_⟩
    · rw [forall₂_iff_get]
      refine ⟨by simp, fun i before after => ?_⟩
      simpa using (serve ⟨i, before⟩).2
    · intro other mem
      obtain ⟨i, rfl⟩ := (mem_ofFn' _ _).mp mem
      exact (serve i).1

end Assignable

end GtnhPlatform
