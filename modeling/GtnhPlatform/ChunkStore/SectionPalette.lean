import GtnhPlatform.ChunkStore.MutableSection
import Mathlib.Data.List.Perm.Subperm

namespace GtnhPlatform.ChunkStore

open List

variable {skipsAir : Bool} {start ids : List UInt16}

theorem subset_collectUnique : start ⊆ collectUnique skipsAir start ids := by
  induction ids generalizing start with
  | nil => exact List.Subset.refl _
  | cons id rest ih =>
    rw [collectUnique]
    split
    · exact ih
    · split
      · exact subset_append_left _ _
      · exact List.Subset.trans (subset_append_left _ _) ih

theorem collectUnique_nodup (distinct : start.Nodup) :
    (collectUnique skipsAir start ids).Nodup := by
  induction ids generalizing start with
  | nil => exact distinct
  | cons id rest ih =>
    rw [collectUnique]
    split
    · exact ih distinct
    rename_i fresh
    have absent : id ∉ start := fun mem => fresh (Or.inr mem)
    have longer : (start ++ [id]).Nodup := by
      apply distinct.append (nodup_singleton id)
      intro other mem same
      exact absent (mem_singleton.mp same ▸ mem)
    split
    · exact longer
    · exact ih longer

theorem mem_collectUnique {id : UInt16} (mem : id ∈ collectUnique skipsAir start ids) :
    id ∈ start ∨ id ∈ ids := by
  induction ids generalizing start with
  | nil => exact Or.inl mem
  | cons first rest ih =>
    rw [collectUnique] at mem
    have grown : ∀ other, other ∈ start ++ [first] → other ∈ start ∨ other ∈ first :: rest := by
      intro other listed
      rcases mem_append.mp listed with old | new
      · exact Or.inl old
      · exact Or.inr (mem_singleton.mp new ▸ mem_cons_self)
    split at mem
    · exact (ih mem).imp_right (mem_cons_of_mem _)
    split at mem
    · exact grown id mem
    · rcases ih mem with early | late
      · exact grown id early
      · exact Or.inr (mem_cons_of_mem _ late)

theorem mem_blockList_iff {blocks : LocalIndex → UInt16} {id : UInt16} :
    id ∈ blockList blocks ↔ ∃ li, blocks li = id := by
  rw [blockList_eq, mem_map]
  constructor
  · rintro ⟨li, _, same⟩
    exact ⟨li, same⟩
  · rintro ⟨li, same⟩
    exact ⟨li, mem_finRange li, same⟩

theorem mem_blockList (blocks : LocalIndex → UInt16) (li : LocalIndex) :
    blocks li ∈ blockList blocks := mem_blockList_iff.mpr ⟨li, rfl⟩

namespace SectionBlocks

def paletteFrom (palette ids : List UInt16) : List UInt16 :=
  ids.foldl (fun palette id => if id == 0 || palette.contains id then palette else palette ++ [id])
    palette

theorem paletteFrom_spec (palette ids : List UInt16) (air : 0 ∈ palette) :
    palette <+: paletteFrom palette ids ∧ ids ⊆ paletteFrom palette ids ∧
      (paletteFrom palette ids).length ≤ palette.length + ids.length := by
  induction ids generalizing palette with
  | nil => exact ⟨prefix_rfl, nil_subset _, le_rfl⟩
  | cons id rest ih =>
    rw [paletteFrom, foldl_cons, ← paletteFrom]
    by_cases known : (id == 0 || palette.contains id) = true
    · rw [if_pos known]
      obtain ⟨keeps, collects, short⟩ := ih palette air
      have listed : id ∈ palette := by
        rcases Bool.or_eq_true_iff.mp known with zero | mem
        · rw [beq_iff_eq.mp zero]
          exact air
        · exact contains_iff_mem.mp mem
      refine ⟨keeps, cons_subset.mpr ⟨keeps.subset listed, collects⟩, ?_⟩
      rw [length_cons]
      omega
    · rw [if_neg known]
      obtain ⟨keeps, collects, short⟩ := ih (palette ++ [id]) (mem_append_left _ air)
      have new : id ∈ palette ++ [id] := mem_append_right _ (mem_singleton_self id)
      refine ⟨(prefix_append palette [id]).trans keeps,
        cons_subset.mpr ⟨keeps.subset new, collects⟩, ?_⟩
      rw [length_append, length_singleton] at short
      rw [length_cons]
      omega

theorem overflowPalette_spec (ids : LocalIndex → UInt16) :
    [0] <+: overflowPalette ids ∧ (∀ li, ids li ∈ overflowPalette ids) ∧
      (overflowPalette ids).length ≤ 4097 := by
  obtain ⟨keeps, collects, short⟩ := paletteFrom_spec [0] (blockList ids) (mem_singleton_self 0)
  have size : (blockList ids).length = 4096 := by
    rw [blockList_eq, length_map, length_finRange, SEC_VOL]
  refine ⟨keeps, fun li => collects (mem_blockList ids li), ?_⟩
  rw [size] at short
  exact short

theorem overflow_of_collected {ids : LocalIndex → UInt16} (distinct : start.Nodup)
    (known : start ⊆ overflowPalette ids)
    (many : 256 < (collectUnique skipsAir start (blockList ids)).length) :
    256 < (overflowPalette ids).length := by
  refine many.trans_le (subperm_of_subset (collectUnique_nodup distinct) ?_).length_le
  intro id mem
  rcases mem_collectUnique mem with early | listed
  · exact known early
  · obtain ⟨li, rfl⟩ := mem_blockList_iff.mp listed
    exact (overflowPalette_spec ids).2.1 li

def Encodable : SectionBlocks → Prop
  | .air => True
  | .bitpack4 data => data.palette ≠ [] ∧ data.palette.length ≤ 16
  | .flat data => data.palette ≠ [] ∧ data.palette.length ≤ 257
  | .overflow ids => 256 < (overflowPalette ids).length

variable {id : UInt16}

theorem collected_ne_nil (mem : id ∈ start) : collectUnique skipsAir start ids ≠ [] :=
  ne_nil_of_mem (subset_collectUnique mem)

theorem fromBlocks_encodable (ids : LocalIndex → UInt16) : (fromBlocks ids).Encodable := by
  have some : collectUnique true [0] (blockList ids) ≠ [] := collected_ne_nil (mem_singleton_self 0)
  rw [fromBlocks]
  split
  · trivial
  split
  · next few => exact ⟨some, few⟩
  split
  · next few => exact ⟨some, few.trans (Nat.le_succ _)⟩
  · next many =>
    refine overflow_of_collected (nodup_singleton 0) ?_ (not_le.mp many)
    exact (overflowPalette_spec ids).1.subset

theorem checkOverflowDemote_encodable (ids : LocalIndex → UInt16) :
    (checkOverflowDemote ids).Encodable := by
  rw [checkOverflowDemote]
  split
  · next many =>
    refine overflow_of_collected (nodup_singleton 0) ?_ many
    exact (overflowPalette_spec ids).1.subset
  · next few =>
    refine ⟨collected_ne_nil (mem_singleton_self 0), ?_⟩
    exact (not_lt.mp few).trans (Nat.le_succ _)

theorem setInPalette_length (data : FlatData bytes) (li : LocalIndex) (id : UInt16) (bpi : Nat) :
    (setInPalette data li id bpi).palette =
      if id ∈ data.palette then data.palette else data.palette ++ [id] := by
  unfold setInPalette
  split <;> rfl

theorem promote_cases (blocks : SectionBlocks) (newId : UInt16) :
    (∃ data, promoteToFlatOrOverflow blocks newId = .flat data ∧ newId ∈ data.palette ∧
        data.palette.length ≤ 257) ∨
      (promoteToFlatOrOverflow blocks newId = .overflow blocks.getBlock ∧
        256 < (collectUnique false [newId] (blockList blocks.getBlock)).length) := by
  rw [promoteToFlatOrOverflow]
  by_cases few : (collectUnique false [newId] (blockList blocks.getBlock)).length ≤ 256
  · rw [if_pos few]
    refine Or.inl ⟨_, rfl, ?_, ?_⟩
    · have collected : newId ∈ collectUnique false [newId] (blockList blocks.getBlock) :=
        subset_collectUnique (mem_singleton_self newId)
      by_cases zero : newId = 0
      · rw [zero]
        exact mem_cons_self
      · exact mem_cons_of_mem _ (mem_filter.mpr ⟨collected, bne_iff_ne.mpr zero⟩)
    · have fewer := length_filter_le (· != (0 : UInt16))
        (collectUnique false [newId] (blockList blocks.getBlock))
      simp only [flatOf, length_cons]
      omega
  · rw [if_neg few]
    exact Or.inr ⟨rfl, not_le.mp few⟩

variable {li : LocalIndex}

theorem setBlock_overflow_encodable {ids : LocalIndex → UInt16}
    (again : SectionBlocks → SectionBlocks)
    (many : ids li = id → 256 < (overflowPalette ids).length) :
    (setBlockWith again li id (.overflow ids)).Encodable := by
  rw [setBlockWith]
  split
  · exact checkOverflowDemote_encodable _
  rename_i same
  have unchanged : Function.update ids li id = ids := by
    rw [← not_not.mp same, Function.update_eq_self]
  rw [unchanged]
  exact many (not_not.mp same)

theorem setBlock_promoted_encodable (again : SectionBlocks → SectionBlocks) (li : LocalIndex)
    (id : UInt16) (blocks : SectionBlocks) :
    (setBlockWith again li id (promoteToFlatOrOverflow blocks id)).Encodable := by
  rcases promote_cases blocks id with ⟨data, promoted, listed, few⟩ | ⟨promoted, many⟩
  · have room : ¬ (id ∉ data.palette ∧ 256 ≤ data.palette.length) := fun full => full.1 listed
    rw [promoted, setBlockWith, if_neg room]
    refine ⟨?_, ?_⟩
    · rw [setInPalette_length, if_pos listed]
      exact ne_nil_of_mem listed
    · rw [setInPalette_length, if_pos listed]
      exact few
  · rw [promoted]
    apply setBlock_overflow_encodable
    rintro rfl
    refine overflow_of_collected (nodup_singleton _) ?_ many
    exact cons_subset.mpr ⟨(overflowPalette_spec _).2.1 li, nil_subset _⟩

theorem setInPalette_encodable {data : FlatData bytes} (bpi : Nat)
    (some : data.palette ≠ []) (few : data.palette.length ≤ limit)
    (room : ¬ (id ∉ data.palette ∧ limit ≤ data.palette.length)) :
    (setInPalette data li id bpi).palette ≠ [] ∧
      (setInPalette data li id bpi).palette.length ≤ limit := by
  rw [setInPalette_length]
  split
  · exact ⟨some, few⟩
  rename_i absent
  have short : data.palette.length < limit := by
    by_contra full
    exact room ⟨absent, not_lt.mp full⟩
  refine ⟨append_ne_nil_of_left_ne_nil some _, ?_⟩
  rw [length_append, length_singleton]
  omega

theorem setBlock_encodable {blocks : SectionBlocks} (encodable : blocks.Encodable) (li : LocalIndex)
    (id : UInt16) : (blocks.setBlock li id).Encodable := by
  rw [setBlock]
  cases blocks with
  | air =>
    rw [setBlockWith]
    split
    · trivial
    · exact ⟨cons_ne_nil _ _, by simp⟩
  | overflow ids => exact setBlock_overflow_encodable _ fun _ => encodable
  | bitpack4 data =>
    rw [setBlockWith]
    split
    · exact setBlock_promoted_encodable _ li id _
    · next room => exact setInPalette_encodable 4 encodable.1 encodable.2 room
  | flat data =>
    rw [setBlockWith]
    split
    · exact setBlock_promoted_encodable _ li id _
    rename_i room
    by_cases few : data.palette.length ≤ 256
    · have set : _ ≠ [] ∧ (setInPalette data li id 8).palette.length ≤ 256 :=
        setInPalette_encodable 8 encodable.1 few room
      exact ⟨set.1, set.2.trans (Nat.le_succ _)⟩
    -- a full palette that has the id
    have listed : id ∈ data.palette := by
      by_contra absent
      exact room ⟨absent, (not_le.mp few).le⟩
    rw [Encodable, setInPalette_length, if_pos listed]
    exact encodable

end SectionBlocks

end GtnhPlatform.ChunkStore
