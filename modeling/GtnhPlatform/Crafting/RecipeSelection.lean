import GtnhPlatform.Crafting.ContainerCraft

namespace GtnhPlatform.Crafting

open Inventory List

/-! Loading recipes. -/

namespace RecipeManager

def storeRecipe (recipe : Recipe) (manager : RecipeManager) : RecipeManager where
  classByBlockId := manager.classByBlockId
  recipesByClass := AList.insert recipe.machineClass
    ((manager.recipesByClass.lookup recipe.machineClass).getD [] ++ [recipe.id])
    manager.recipesByClass
  recipes := AList.insert recipe.id recipe manager.recipes
  tierByBlockId := manager.tierByBlockId
  energyInByBlockId := manager.energyInByBlockId
  listed := by
    intro machineClass ids found id mem
    rw [Table.lookup_insert_eq]
    split
    · rfl
    · next other =>
      rw [Table.lookup_insert_eq] at found
      split at found
      · cases found
        have old := (mem_append.mp mem).resolve_right fun last =>
          other (mem_singleton.mp last)
        cases before : manager.recipesByClass.lookup recipe.machineClass with
        | none =>
          rw [before] at old
          exact absurd old not_mem_nil
        | some earlier =>
          rw [before] at old
          exact manager.listed _ earlier before id old
      · exact manager.listed machineClass ids found id mem

def registerMachineClass (blockId : UInt16) (className : String) (tier : Int) (energyIn : UInt8)
    (manager : RecipeManager) : RecipeManager :=
  { manager with
    classByBlockId := AList.insert blockId className manager.classByBlockId
    tierByBlockId := AList.insert blockId tier manager.tierByBlockId
    energyInByBlockId := AList.insert blockId energyIn manager.energyInByBlockId }

def candidates (manager : RecipeManager) (machineId : UInt16) (items : List ItemStack)
    (ids : List String) : List Recipe :=
  (ids.filterMap manager.recipes.lookup).filter (manager.eligible machineId items)

def checkRecipe (manager : RecipeManager) (container : Container) (machineId : UInt16) : String :=
  let containerItems := container.items.toList
  match manager.classByBlockId.lookup machineId with
  | none => ""
  | some machineClass =>
    match manager.recipesByClass.lookup machineClass with
    | none => ""
    | some ids =>
      let found := manager.candidates machineId containerItems ids
      if found = [] then ""
      else
        match (found.foldl prefer ⟨none, -1⟩).recipe with
        | some best => best.id
        | none => ""

def unloaded : RecipeManager where
  classByBlockId := ∅
  recipesByClass := ∅
  recipes := ∅
  tierByBlockId := ∅
  energyInByBlockId := ∅
  listed := by
    intro machineClass ids found
    exact absurd found nofun

end RecipeManager

inductive Load
  | machine (blockId : UInt16) (className : String) (tier : Int) (energyIn : UInt8)
  | recipe (recipe : Recipe)

def recipeLoader : Machine RecipeManager Load Empty where
  step manager load :=
    match load with
    | .machine blockId className tier energyIn =>
      (manager.registerMachineClass blockId className tier energyIn, [])
    | .recipe recipe => (manager.storeRecipe recipe, [])

open Inventory

namespace RecipeManager

variable {manager : RecipeManager} {machineId : UInt16} {items : List ItemStack}

theorem prefer_first (recipes : List Recipe) (best : Best) :
    (recipes.foldl prefer best = best ∧ ∀ recipe ∈ recipes, recipe.minTier ≤ best.minTier) ∨
      ∃ before chosen after, recipes = before ++ chosen :: after ∧
        recipes.foldl prefer best = ⟨some chosen, chosen.minTier⟩ ∧ best.minTier < chosen.minTier ∧
        (∀ recipe ∈ before, recipe.minTier < chosen.minTier) ∧
        ∀ recipe ∈ after, recipe.minTier ≤ chosen.minTier := by
  induction recipes generalizing best with
  | nil => exact .inl ⟨rfl, nofun⟩
  | cons first rest ih =>
    rw [foldl_cons]
    by_cases better : best.minTier < first.minTier
    · rw [prefer, if_pos better]
      rcases ih ⟨some first, first.minTier⟩ with
        ⟨same, below⟩ | ⟨before, chosen, after, split, result, above, earlier, later⟩
      · exact .inr ⟨[], first, rest, rfl, same, better, nofun, below⟩
      · exact .inr ⟨first :: before, chosen, after, congrArg _ split, result,
          Int.lt_trans better above, forall_mem_cons.mpr ⟨above, earlier⟩, later⟩
    · rw [prefer, if_neg better]
      rcases ih best with
        ⟨same, below⟩ | ⟨before, chosen, after, split, result, above, earlier, later⟩
      · exact .inl ⟨same, forall_mem_cons.mpr ⟨Int.not_lt.mp better, below⟩⟩
      · exact .inr ⟨first :: before, chosen, after, congrArg _ split, result, above,
          forall_mem_cons.mpr ⟨Int.lt_of_le_of_lt (Int.not_lt.mp better) above, earlier⟩,
          later⟩

def listedFor (manager : RecipeManager) (machineId : UInt16) (items : List ItemStack) :
    List Recipe :=
  (((manager.classByBlockId.lookup machineId).bind manager.recipesByClass.lookup).map
    (manager.candidates machineId items)).getD []

theorem findRecipeByInputs_eq (manager : RecipeManager) (machineId : UInt16)
    (items : List ItemStack) : manager.findRecipeByInputs machineId items =
      ((manager.listedFor machineId items).foldl prefer ⟨none, -1⟩).recipe := by
  unfold findRecipeByInputs listedFor
  cases manager.classByBlockId.lookup machineId with
  | none => rfl
  | some machineClass =>
    simp only [Option.bind_some]
    cases manager.recipesByClass.lookup machineClass with
    | none => rfl
    | some ids => rfl

theorem checkRecipe_eq (manager : RecipeManager) (container : Container) (machineId : UInt16) :
    manager.checkRecipe container machineId =
      ((manager.findRecipeByInputs machineId container.items.toList).map Recipe.id).getD "" := by
  rw [findRecipeByInputs_eq]
  unfold checkRecipe listedFor
  cases manager.classByBlockId.lookup machineId with
  | none => rfl
  | some machineClass =>
    simp only [Option.bind_some]
    cases manager.recipesByClass.lookup machineClass with
    | none => rfl
    | some ids =>
      simp only [Option.map_some, Option.getD_some]
      split
      · next none => rw [none]; rfl
      cases ((manager.candidates machineId container.items.toList ids).foldl prefer
        ⟨none, -1⟩).recipe with
      | none => rfl
      | some best => rfl

def OfClass (manager : RecipeManager) (machineId : UInt16) (recipe : Recipe) : Prop :=
  manager.classByBlockId.lookup machineId = some recipe.machineClass

structure Candidate (manager : RecipeManager) (machineId : UInt16) (items : List ItemStack)
    (recipe : Recipe) : Prop where
  loaded : ∃ id, manager.recipes.lookup id = some recipe
  current : manager.OfClass machineId recipe
  admitted : manager.eligible machineId items recipe = true

structure Selects (manager : RecipeManager) (machineId : UInt16) (items : List ItemStack) :
    Prop where
  best : ∀ recipe, manager.findRecipeByInputs machineId items = some recipe →
    manager.Candidate machineId items recipe ∧
      ∀ other, manager.Candidate machineId items other → other.minTier ≤ recipe.minTier
  none : manager.findRecipeByInputs machineId items = Option.none ↔
    ∀ recipe, ¬ manager.Candidate machineId items recipe
  same : ∀ container : Container, container.items.toList = items →
    manager.checkRecipe container machineId =
      ((manager.findRecipeByInputs machineId items).map Recipe.id).getD ""
  silent : ∀ container : Container, container.items.toList = items →
    (manager.checkRecipe container machineId = "" ↔
      ∀ recipe, ¬ manager.Candidate machineId items recipe)

def Sound (manager : RecipeManager) (machineId : UInt16) (items : List ItemStack)
    (recipe : Recipe) : Prop :=
  manager.OfClass machineId recipe ∧ (items.length = 9 → recipe.id ≠ "")

structure Unshadowed (manager : RecipeManager) (machineId : UInt16) (items : List ItemStack) :
    Prop where
  behind : ∀ before bad after, manager.listedFor machineId items = before ++ bad :: after →
    0 ≤ bad.minTier → ¬ manager.Sound machineId items bad →
    (∃ good ∈ before, manager.Sound machineId items good ∧ bad.minTier ≤ good.minTier) ∨
      ∃ good ∈ after, manager.Sound machineId items good ∧ bad.minTier < good.minTier
  tiered : (∃ recipe ∈ manager.listedFor machineId items, manager.OfClass machineId recipe) →
    ∃ recipe ∈ manager.listedFor machineId items,
      manager.OfClass machineId recipe ∧ 0 ≤ recipe.minTier

def Indexed (manager : RecipeManager) : Prop :=
  ∀ id recipe, manager.recipes.lookup id = some recipe →
    recipe.id = id ∧ ∃ ids, manager.recipesByClass.lookup recipe.machineClass = some ids ∧ id ∈ ids

variable {recipe : Recipe}

theorem mem_listedFor (mem : recipe ∈ manager.listedFor machineId items) :
    (∃ id, manager.recipes.lookup id = some recipe) ∧
      manager.eligible machineId items recipe = true := by
  unfold listedFor at mem
  cases found : (manager.classByBlockId.lookup machineId).bind manager.recipesByClass.lookup with
  | none =>
    rw [found] at mem
    exact absurd mem not_mem_nil
  | some ids =>
    rw [found] at mem
    obtain ⟨listed, admitted⟩ := mem_filter.mp mem
    obtain ⟨id, -, loaded⟩ := mem_filterMap.mp listed
    exact ⟨⟨id, loaded⟩, admitted⟩

theorem candidate_iff (indexed : manager.Indexed) : manager.Candidate machineId items recipe ↔
      recipe ∈ manager.listedFor machineId items ∧ manager.OfClass machineId recipe := by
  constructor
  · rintro ⟨⟨id, loaded⟩, current, admitted⟩
    obtain ⟨-, ids, listed, mem⟩ := indexed id recipe loaded
    refine ⟨?_, current⟩
    have entry : (manager.classByBlockId.lookup machineId).bind manager.recipesByClass.lookup =
        some ids := by
      rw [current]
      exact listed
    rw [listedFor, entry]
    exact mem_filter.mpr ⟨mem_filterMap.mpr ⟨id, mem, loaded⟩, admitted⟩
  · rintro ⟨mem, current⟩
    obtain ⟨loaded, admitted⟩ := mem_listedFor mem
    exact ⟨loaded, current, admitted⟩

theorem exists_container (nine : items.length = 9) :
    ∃ container : Container, container.items.toList = items :=
  ⟨⟨⟨items.toArray, nine⟩, 0, 0⟩, rfl⟩

theorem container_length (container : Container) (same : container.items.toList = items) :
    items.length = 9 := by
  rw [← same]
  exact container.items.length_toList

theorem ahead_of_split {before after front back : List Recipe} {chosen bad : Recipe}
    (same : before ++ chosen :: after = front ++ bad :: back) (differ : bad ≠ chosen)
    (earlier : ∀ recipe ∈ before, recipe.minTier < chosen.minTier)
    (later : ∀ recipe ∈ after, recipe.minTier ≤ chosen.minTier) :
    (chosen ∈ front ∧ bad.minTier ≤ chosen.minTier) ∨
      (chosen ∈ back ∧ bad.minTier < chosen.minTier) := by
  rcases append_eq_append_iff.mp same.symm with
    ⟨between, shorter, tail⟩ | ⟨between, longer, tail⟩
  · cases between with
    | nil => exact absurd (cons.inj tail).1 differ
    | cons first between =>
      cases tail
      exact .inr ⟨mem_append_right _ mem_cons_self, earlier bad (by rw [shorter]; simp)⟩
  · cases between with
    | nil => exact absurd (cons.inj tail).1.symm differ
    | cons first between =>
      cases tail
      exact .inl ⟨by rw [longer]; simp, later bad (by simp)⟩

theorem Selects.unshadowed (indexed : manager.Indexed) (selects : manager.Selects machineId items) :
    manager.Unshadowed machineId items := by
  have answer := manager.findRecipeByInputs_eq machineId items
  rcases prefer_first (manager.listedFor machineId items) ⟨Option.none, -1⟩ with
    ⟨nothing, below⟩ | ⟨before, chosen, after, split, result, above, earlier, later⟩
  · rw [nothing] at answer
    refine ⟨fun front bad back listed tier => ?_, ?_⟩
    · have low := below bad (by rw [listed]; simp)
      simp only at low
      omega
    · rintro ⟨recipe, mem, current⟩
      exact absurd ((candidate_iff indexed).mpr ⟨mem, current⟩)
        (selects.none.mp answer recipe)
  · rw [result] at answer
    simp only at above
    obtain ⟨candidate, -⟩ := selects.best chosen answer
    have sound : manager.Sound machineId items chosen := by
      refine ⟨candidate.current, fun nine nameless => ?_⟩
      obtain ⟨container, same⟩ := exists_container nine
      refine (selects.silent container same).mp ?_ chosen candidate
      rw [selects.same container same, answer]
      exact nameless
    refine ⟨fun front bad back again tier unsound => ?_,
      fun _ => ⟨chosen, ((candidate_iff indexed).mp candidate).1, candidate.current, by omega⟩⟩
    have differ : bad ≠ chosen := fun same => unsound (same ▸ sound)
    rcases ahead_of_split (split.symm.trans again) differ earlier later with
      ⟨mem, tier⟩ | ⟨mem, tier⟩
    · exact .inl ⟨chosen, mem, sound, tier⟩
    · exact .inr ⟨chosen, mem, sound, tier⟩

theorem Unshadowed.selects (indexed : manager.Indexed)
    (unshadowed : manager.Unshadowed machineId items) : manager.Selects machineId items := by
  have answer := manager.findRecipeByInputs_eq machineId items
  have agree : ∀ container : Container, container.items.toList = items →
      manager.checkRecipe container machineId =
        ((manager.findRecipeByInputs machineId items).map Recipe.id).getD "" := by
    rintro container rfl
    exact manager.checkRecipe_eq container machineId
  rcases prefer_first (manager.listedFor machineId items) ⟨none, -1⟩ with
    ⟨nothing, below⟩ | ⟨before, chosen, after, split, result, above, earlier, later⟩
  · rw [nothing] at answer
    have empty : ∀ recipe, ¬ manager.Candidate machineId items recipe := by
      intro recipe candidate
      obtain ⟨high, mem, -, tier⟩ :=
        unshadowed.tiered ⟨recipe, (candidate_iff indexed).mp candidate⟩
      have low := below high mem
      simp only at low
      omega
    refine ⟨fun recipe found => ?_, iff_of_true answer empty, agree, fun container same => ?_⟩
    · rw [answer] at found
      exact absurd found nofun
    · rw [agree container same, answer]
      exact iff_of_true rfl empty
  · rw [result] at answer
    simp only at above
    have sound : manager.Sound machineId items chosen := by
      by_contra unsound
      rcases unshadowed.behind before chosen after split (by omega) unsound with
        ⟨good, mem, -, tier⟩ | ⟨good, mem, -, tier⟩
      · have low := earlier good mem
        omega
      · have low := later good mem
        omega
    have listed : chosen ∈ manager.listedFor machineId items := by
      rw [split]
      exact mem_append_right _ mem_cons_self
    have candidate := (candidate_iff indexed).mpr ⟨listed, sound.1⟩
    have highest : ∀ other, manager.Candidate machineId items other →
        other.minTier ≤ chosen.minTier := by
      intro other found
      obtain ⟨mem, -⟩ := (candidate_iff indexed).mp found
      rw [split, mem_append, mem_cons] at mem
      rcases mem with first | rfl | last
      · exact Int.le_of_lt (earlier other first)
      · exact Int.le_refl _
      · exact later other last
    refine ⟨fun recipe found => ?_, ?_, agree, fun container same => ?_⟩
    · cases answer.symm.trans found
      exact ⟨candidate, highest⟩
    · rw [answer]
      exact iff_of_false nofun fun empty => empty chosen candidate
    · rw [agree container same, answer]
      exact iff_of_false (sound.2 (container_length container same)) fun empty =>
        empty chosen candidate

theorem indexed_unloaded : unloaded.Indexed := by
  intro id recipe found
  exact absurd found nofun

theorem Indexed.storeRecipe (indexed : manager.Indexed) (recipe : Recipe) :
    (manager.storeRecipe recipe).Indexed := by
  intro id stored found
  have classes : ∀ machineClass, (manager.storeRecipe recipe).recipesByClass.lookup machineClass =
      if machineClass = recipe.machineClass then
        some ((manager.recipesByClass.lookup recipe.machineClass).getD [] ++ [recipe.id])
      else manager.recipesByClass.lookup machineClass := fun machineClass =>
    Table.lookup_insert_eq _ _ _ _
  have recipes : (manager.storeRecipe recipe).recipes.lookup id =
      if id = recipe.id then some recipe else manager.recipes.lookup id :=
    Table.lookup_insert_eq _ _ _ _
  rw [recipes] at found
  by_cases here : id = recipe.id
  · rw [if_pos here] at found
    cases found
    refine ⟨here.symm, _, (classes _).trans (if_pos rfl), ?_⟩
    rw [here]
    exact mem_append_right _ (mem_singleton.mpr rfl)
  · rw [if_neg here] at found
    obtain ⟨named, ids, listed, mem⟩ := indexed id stored found
    refine ⟨named, ?_⟩
    by_cases same : stored.machineClass = recipe.machineClass
    · refine ⟨_, (classes _).trans (if_pos same), mem_append_left _ ?_⟩
      rw [← same, listed]
      exact mem
    · exact ⟨ids, (classes _).trans ((if_neg same).trans listed), mem⟩

def Regular (manager : RecipeManager) : Prop :=
  ∀ machineClass ids id recipe, manager.recipesByClass.lookup machineClass = some ids → id ∈ ids →
    manager.recipes.lookup id = some recipe →
    recipe.machineClass = machineClass ∧ recipe.id ≠ "" ∧ 0 ≤ recipe.minTier

theorem Regular.unshadowed (regular : manager.Regular) (machineId : UInt16)
    (items : List ItemStack) : manager.Unshadowed machineId items := by
  have sound : ∀ recipe ∈ manager.listedFor machineId items,
      manager.Sound machineId items recipe ∧ 0 ≤ recipe.minTier := by
    intro recipe mem
    unfold listedFor at mem
    cases classOf : manager.classByBlockId.lookup machineId with
    | none =>
      rw [classOf] at mem
      exact absurd mem not_mem_nil
    | some machineClass =>
      rw [classOf, Option.bind_some] at mem
      cases listed : manager.recipesByClass.lookup machineClass with
      | none =>
        rw [listed] at mem
        exact absurd mem not_mem_nil
      | some ids =>
        rw [listed] at mem
        obtain ⟨id, inList, loaded⟩ := mem_filterMap.mp (mem_filter.mp mem).1
        obtain ⟨current, named, tier⟩ := regular machineClass ids id recipe listed inList loaded
        exact ⟨⟨classOf.trans (congrArg _ current.symm), fun _ => named⟩, tier⟩
  refine ⟨fun before bad after listed tier unsound => ?_, ?_⟩
  · exact absurd (sound bad (by rw [listed]; simp)).1 unsound
  · rintro ⟨recipe, mem, current⟩
    exact ⟨recipe, mem, current, (sound recipe mem).2⟩

def PlainLoad (manager : RecipeManager) : Load → Prop
  | .machine .. => True
  | .recipe recipe => recipe.id ≠ "" ∧ 0 ≤ recipe.minTier ∧
      ∀ machineClass ids, manager.recipesByClass.lookup machineClass = some ids →
        recipe.id ∈ ids → machineClass = recipe.machineClass

theorem Regular.storeRecipe (regular : manager.Regular)
    (plain : manager.PlainLoad (.recipe recipe)) : (manager.storeRecipe recipe).Regular := by
  obtain ⟨named, tier, onlyHere⟩ := plain
  intro machineClass ids id stored listed mem found
  have classes : (manager.storeRecipe recipe).recipesByClass.lookup machineClass =
      if machineClass = recipe.machineClass then
        some ((manager.recipesByClass.lookup recipe.machineClass).getD [] ++ [recipe.id])
      else manager.recipesByClass.lookup machineClass := Table.lookup_insert_eq _ _ _ _
  have recipes : (manager.storeRecipe recipe).recipes.lookup id =
      if id = recipe.id then some recipe else manager.recipes.lookup id :=
    Table.lookup_insert_eq _ _ _ _
  rw [classes] at listed
  rw [recipes] at found
  by_cases here : id = recipe.id
  · rw [if_pos here] at found
    cases found
    refine ⟨?_, named, tier⟩
    by_cases same : machineClass = recipe.machineClass
    · exact same.symm
    · rw [if_neg same] at listed
      exact (onlyHere machineClass ids listed (here ▸ mem)).symm
  · rw [if_neg here] at found
    by_cases same : machineClass = recipe.machineClass
    · rw [if_pos same] at listed
      cases listed
      have old := (mem_append.mp mem).resolve_right fun last =>
        here (mem_singleton.mp last)
      cases before : manager.recipesByClass.lookup recipe.machineClass with
      | none =>
        rw [before] at old
        exact absurd old not_mem_nil
      | some earlier =>
        rw [before] at old
        rw [same]
        exact regular _ earlier id stored before old found
    · rw [if_neg same] at listed
      exact regular machineClass ids id stored listed mem found

theorem indexed_loaded (loads : List Load) : (recipeLoader.final unloaded loads).Indexed := by
  refine recipeLoader.invariant (fun _ _ => True) (fun _ manager _ => manager.Indexed)
    indexed_unloaded ?_ loads (recipeLoader.along_true _ _)
  intro _ manager _ load indexed _
  cases load with
  | machine blockId className tier energyIn => exact indexed
  | recipe recipe => exact indexed.storeRecipe recipe

theorem regular_loaded (plain : recipeLoader.Along PlainLoad unloaded loads) :
    (recipeLoader.final unloaded loads).Regular := by
  refine recipeLoader.invariant PlainLoad (fun _ manager _ => manager.Regular) ?_ ?_ loads plain
  · intro machineClass ids id recipe listed
    exact absurd listed nofun
  intro _ manager _ load regular plain
  cases load with
  | machine blockId className tier energyIn => exact regular
  | recipe recipe => exact regular.storeRecipe plain

theorem selection_iff (loads : List Load) :
    (∀ machineId items, (recipeLoader.final unloaded loads).Selects machineId items ↔
        (recipeLoader.final unloaded loads).Unshadowed machineId items) ∧
      (recipeLoader.Along PlainLoad unloaded loads →
        ∀ machineId items, (recipeLoader.final unloaded loads).Selects machineId items) := by
  have indexed := indexed_loaded loads
  refine ⟨fun machineId items => ⟨Selects.unshadowed indexed, Unshadowed.selects indexed⟩,
    fun plain machineId items => ?_⟩
  exact ((regular_loaded plain).unshadowed machineId items).selects indexed

def crushing (machineClass : String) : Recipe where
  id := "crushing"
  inputs := [⟨5, 1, 0, true, 0, 0⟩]
  outputs := [⟨6, 2, 0⟩]
  minTier := 0
  maxTier := 32767
  energyType := ENERGY_TYPE_ANY
  hasPattern := false
  pattern := Vector.replicate 9 PersistSlot.empty
  machineClass := machineClass

def redefined : List Load :=
  [.machine 7 "macerator" 1 ENERGY_TYPE_ANY, .recipe (crushing "macerator"),
    .recipe (crushing "furnace")]

theorem redefined_outdated : ¬ (recipeLoader.final unloaded redefined).Selects 7 [⟨5, 1, 0⟩] := by
  intro selects
  have answer : ((recipeLoader.final unloaded redefined).findRecipeByInputs 7
      [⟨5, 1, 0⟩]).map Recipe.machineClass = some "furnace" := by
    decide
  obtain ⟨recipe, found, ofClass⟩ := Option.map_eq_some_iff.mp answer
  have current := (selects.best recipe found).1.current
  unfold OfClass at current
  rw [ofClass] at current
  exact absurd current (by decide)

end RecipeManager

end GtnhPlatform.Crafting
