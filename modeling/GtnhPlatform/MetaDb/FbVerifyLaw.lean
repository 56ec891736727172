import GtnhPlatform.MetaDb.FbVerify

namespace GtnhPlatform.MetaDb

open Option List

section Conditions

variable (buf : List UInt8)

def vtableLen (pos : Nat) : Nat := uintAt buf (vtableOf buf pos) 2

def entryOf (pos slot : Nat) : Nat :=
  if slot < vtableLen buf pos then uintAt buf (wrapU32 (vtableOf buf pos + slot)) 2 else 0

def fieldOf (pos slot : Nat) : Nat := wrapU32 (pos + entryOf buf pos slot)

def valueOf (pos slot width : Nat) : Nat :=
  if entryOf buf pos slot = 0 then 0 else uintAt buf (fieldOf buf pos slot) width

def targetOf (pos slot : Nat) : Option Nat :=
  if entryOf buf pos slot = 0 then none
  else some (wrapU32 (fieldOf buf pos slot + uintAt buf (fieldOf buf pos slot) 4))

/-- The vtable ends in the middle of the entry. -/
def CutsSlot (pos slot : Nat) : Prop := vtableLen buf pos = slot + 1

/-- The bytes that lead to a field of some bytes, and these themselves, lie in the buffer. -/
structure Readable (pos slot width : Nat) : Prop where
  table : pos + 4 ≤ buf.length
  vtable : vtableOf buf pos + 2 ≤ buf.length
  entry : slot < vtableLen buf pos → wrapU32 (vtableOf buf pos + slot) + 2 ≤ buf.length
  field : entryOf buf pos slot ≠ 0 → fieldOf buf pos slot + width ≤ buf.length

def FieldFits (checked : Prop) (pos slot width : Nat) : Prop :=
  (checked → CutsSlot buf pos slot) → Readable buf pos slot width

def FieldsFit (checked : Prop) (pos : Nat) (reads : List (Nat × Nat)) : Prop :=
  ∀ read ∈ reads, FieldFits buf checked pos read.1 read.2

def MessageFits (checked : Prop) (msg : Nat) : Prop :=
  FieldFits buf checked msg 4 4 ∧ FieldFits buf checked msg 6 1 ∧
    ∀ desc, fbRequestDescriptor (valueOf buf msg 6 1) = some desc → FieldFits buf checked msg 8 4 ∧
        ∀ req, targetOf buf msg 8 = some req → verifyTableAt buf fbMaxDepth req desc = true →
          FieldsFit buf True req (TableAccess.requestReads desc)

def FrameFits (checked : Prop) (frame : Nat) : Prop := FieldFits buf checked frame 4 1 ∧
    (valueOf buf frame 4 1 = payloadMetaDBMessage → FieldFits buf checked frame 6 4 ∧
        ∀ msg, targetOf buf frame 6 = some msg →
          MessageFits buf (checked ∧ ¬ CutsSlot buf frame 6) msg)

def itemOf (vec index : Nat) : Nat := wrapU32 (vec + 4 + index * 4)

def VectorFits (checked : Prop) (vec : Nat) : Prop :=
  (checked ∨ vec + 4 ≤ buf.length) ∧ ∀ index < uintAt buf vec 4,
    (checked ∨ itemOf vec index + 4 ≤ buf.length) ∧
      FieldsFit buf checked (wrapU32 (itemOf vec index + uintAt buf (itemOf vec index) 4))
        TableAccess.entryReads

def QuestsFit (checked : Prop) (req : Nat) : Prop :=
  FieldFits buf checked req 4 8 ∧ FieldFits buf checked req 6 4 ∧
    ∀ vec, targetOf buf req 6 = some vec → VectorFits buf (checked ∧ ¬ CutsSlot buf req 6) vec

def FbHandler.Fits (handler : FbHandler) (checked : Prop) (pos : Nat) : Prop :=
  match handler with
  | frame => FrameFits buf checked pos
  | questSet => QuestsFit buf checked pos
  | other => FieldsFit buf checked pos other.reads

end Conditions

section Accessors

variable {buf : List UInt8} {pos slot width : Nat} {β : Type}

theorem fieldFits_false : FieldFits buf False pos slot width ↔ Readable buf pos slot width :=
  ⟨fun fits => fits False.elim, fun readable _ => readable⟩

theorem getUint_bind (buf : List UInt8) (off width : Nat) (next : Nat → Option β) :
    ((getUint buf off width).bind next).isSome ↔
      off + width ≤ buf.length ∧ (next (uintAt buf off width)).isSome := by
  unfold getUint
  split
  · next fits => simp only [bind_some, fits, true_and]
  · next short => simp [short]

theorem tableOffset_bind (next : Nat → Option β) : ((tableOffset buf pos slot).bind next).isSome ↔
      (pos + 4 ≤ buf.length ∧ vtableOf buf pos + 2 ≤ buf.length ∧
        (slot < vtableLen buf pos → wrapU32 (vtableOf buf pos + slot) + 2 ≤ buf.length)) ∧
      (next (entryOf buf pos slot)).isSome := by
  simp only [tableOffset, bind_eq_bind, bind_assoc, getUint_bind, and_assoc]
  refine and_congr_right fun _ => and_congr_right fun _ => ?_
  rw [← vtableLen, entryOf]
  split
  · next below => simp only [getUint_bind, below, true_imp_iff]
  · next above => simp only [bind_some, above, false_imp_iff, true_and]

theorem readable_iff : Readable buf pos slot width ↔
    (pos + 4 ≤ buf.length ∧ vtableOf buf pos + 2 ≤ buf.length ∧
      (slot < vtableLen buf pos → wrapU32 (vtableOf buf pos + slot) + 2 ≤ buf.length)) ∧
    (entryOf buf pos slot ≠ 0 → fieldOf buf pos slot + width ≤ buf.length) :=
  ⟨fun readable => ⟨⟨readable.table, readable.vtable, readable.entry⟩, readable.field⟩,
    fun ⟨⟨table, vtable, entry⟩, field⟩ => ⟨table, vtable, entry, field⟩⟩

theorem scalar_bind (access : TableAccess) (next : Nat → Option β) :
    ((access.scalar buf pos slot width).bind next).isSome ↔
      Readable buf pos slot width ∧ (next (valueOf buf pos slot width)).isSome := by
  simp only [access.scalar_eq, tableScalar, bind_eq_bind, bind_assoc,
    tableOffset_bind, readable_iff, valueOf, and_assoc]
  refine and_congr_right fun _ => and_congr_right fun _ => and_congr_right fun _ => ?_
  split
  · next absent => simp [absent]
  · next held => simp only [getUint_bind, fieldOf, held, ne_eq, not_false_eq_true, true_imp_iff]

theorem tableTarget_bind (next : Option Nat → Option β) :
    ((tableTarget buf pos slot).bind next).isSome ↔
      Readable buf pos slot 4 ∧ (next (targetOf buf pos slot)).isSome := by
  simp only [tableTarget, bind_eq_bind, bind_assoc, tableOffset_bind,
    readable_iff, targetOf, and_assoc]
  refine and_congr_right fun _ => and_congr_right fun _ => and_congr_right fun _ => ?_
  split
  · next absent => simp [absent]
  · next held =>
    simp only [bind_assoc, getUint_bind, fieldOf, held, ne_eq, not_false_eq_true,
      true_imp_iff, bind_some]

theorem forM_isSome {α : Type} (items : List α) (step : α → Option Unit) :
    (items.forM step).isSome ↔ ∀ item ∈ items, (step item).isSome := by
  induction items with
  | nil => simp
  | cons item rest ih =>
    rw [forall_mem_cons, ← ih]
    change ((step item).bind fun _ => rest.forM step).isSome ↔ _
    cases step item with
    | none => simp
    | some done => simp

theorem readScalars_isSome (access : TableAccess) (reads : List (Nat × Nat)) :
    (access.readScalars buf pos reads).isSome ↔ FieldsFit buf False pos reads := by
  rw [TableAccess.readScalars, forM_isSome]
  refine forall₂_congr fun read _ => ?_
  rw [fieldFits_false, map_eq_bind, scalar_bind]
  exact and_iff_left rfl

end Accessors

section Checked

variable {buf : List UInt8} {pos : Nat} {desc : FbTable}

def FbField.span (f : FbField) : Nat :=
  match f.kind with
  | .tableRef | .tableVector | .string | .bytes => 4
  | kind => fbFieldWidth kind

structure CheckedTable (buf : List UInt8) (pos : Nat) (desc : FbTable) : Prop where
  short : buf.length < 2 ^ 32
  table : pos + 4 ≤ buf.length
  vtable : vtableOf buf pos = (fbVtablePos buf pos).toNat
  header : 4 ≤ vtableLen buf pos
  entries : vtableOf buf pos + vtableLen buf pos ≤ buf.length
  field : ∀ f ∈ desc.fields, f.slot + 2 ≤ vtableLen buf pos → entryOf buf pos f.slot ≠ 0 →
    fieldOf buf pos f.slot = pos + entryOf buf pos f.slot ∧
      ∃ levels, verifyField (verifyTableAt buf levels) buf f (fieldOf buf pos f.slot) pos = true

theorem uintAt_lt (buf : List UInt8) (pos width : Nat) : uintAt buf pos width < 256 ^ width :=
  (Bytes.littleEndian_lt _).trans_le
    (Nat.pow_le_pow_right (by decide) (length_take_le width _))

theorem vtableOf_eq {length : Nat} (short : length < 2 ^ 32) (inside : 0 ≤ fbVtablePos buf pos)
    (below : fbVtablePos buf pos + 4 ≤ length) :
    vtableOf buf pos = (fbVtablePos buf pos).toNat := by
  have raw := uintAt_lt buf pos 4
  unfold fbVtablePos at *
  rw [wrapI32, Int.bmod_def] at *
  unfold vtableOf wrapU32
  omega

theorem checkedTable (short : buf.length < 2 ^ 32) {levels : Nat}
    (verified : verifyTableAt buf levels pos desc = true) : CheckedTable buf pos desc := by
  cases levels with
  | zero => cases verified
  | succ levels =>
    rw [verifyTableAt] at verified
    simp only [verifyTable, Bool.and_eq_true, decide_eq_true_eq, List.all_eq_true] at verified
    obtain ⟨⟨⟨⟨⟨table, inside⟩, below⟩, header⟩, entries⟩, fields⟩ := verified
    have vtable := vtableOf_eq short inside below
    have start : fbVtablePos buf pos = vtableOf buf pos := by
      rw [vtable, Int.toNat_of_nonneg inside]
    rw [← vtable, ← vtableLen] at header entries fields
    have within : vtableOf buf pos + vtableLen buf pos ≤ buf.length := by
      rw [start] at entries
      exact_mod_cast entries
    have inRange : ∀ {offset}, offset ≤ buf.length → wrapU32 offset = offset :=
      fun room => Nat.mod_eq_of_lt (room.trans_lt short)
    refine ⟨short, table, vtable, header, within, fun f mem whole held => ?_⟩
    have verified := fields f mem
    have slotRoom : vtableOf buf pos + f.slot ≤ buf.length :=
      (Nat.add_le_add_left (Nat.le_of_add_right_le whole) _).trans within
    have entry : entryOf buf pos f.slot = uintAt buf (vtableOf buf pos + f.slot) 2 := by
      rw [entryOf, if_pos (Nat.lt_of_succ_lt whole), inRange slotRoom]
    rw [fbFieldPos, inRange (Nat.le_of_add_right_le within), ← entry,
      if_neg (Nat.not_lt.mpr whole)] at verified
    simp only [if_neg held] at verified
    by_cases room : pos + entryOf buf pos f.slot ≤ buf.length
    · rw [if_neg (Nat.not_lt.mpr room)] at verified
      exact ⟨inRange room, levels, verified⟩
    · rw [if_pos (Nat.lt_of_not_le room)] at verified
      cases verified

theorem fbFollowRef_some (found : fbFollowRef buf pos = some target) :
    pos + 4 ≤ buf.length ∧ target = pos + uintAt buf pos 4 ∧ target + 4 ≤ buf.length := by
  simp only [fbFollowRef, ite_none_left_eq_some, Option.some.injEq] at found
  obtain ⟨room, fits, rfl⟩ := found
  unfold fbMinTableSize at fits
  omega

theorem verifyField_span {verify : Nat → FbTable → Bool} {f : FbField}
    (verified : verifyField verify buf f pos tablePos = true) : pos + f.span ≤ buf.length := by
  obtain ⟨slot, kind, nested, nestedFor⟩ := f
  cases kind with
  | u8 | u16 | u32 | u64 | s32 => exact of_decide_eq_true verified
  | tableRef | tableVector | string | bytes =>
    simp only [verifyField] at verified
    split at verified
    · cases verified
    · next found => exact (fbFollowRef_some found).1

theorem below_of_entry (held : entryOf buf pos slot ≠ 0) : slot < vtableLen buf pos := by
  by_contra above
  exact held (if_neg above)

theorem below_of_target (found : targetOf buf pos slot = some target) :
    slot < vtableLen buf pos := by
  refine below_of_entry fun absent => ?_
  rw [targetOf, if_pos absent] at found
  cases found

namespace CheckedTable

variable (checked : CheckedTable buf pos desc)

include checked

theorem inRange (room : offset ≤ buf.length) : wrapU32 offset = offset :=
  Nat.mod_eq_of_lt (room.trans_lt checked.short)

variable {f : FbField} (mem : f ∈ desc.fields) (whole : ¬ CutsSlot buf pos f.slot)

include mem whole

theorem found (held : entryOf buf pos f.slot ≠ 0) :
    fieldOf buf pos f.slot = pos + entryOf buf pos f.slot ∧
      ∃ levels, verifyField (verifyTableAt buf levels) buf f (fieldOf buf pos f.slot) pos = true :=
  checked.field f mem
    (Nat.lt_of_le_of_ne (below_of_entry held) fun cut => whole cut.symm) held

theorem readable : Readable buf pos f.slot f.span where
  table := checked.table
  vtable := (Nat.add_le_add_left (Nat.le_trans (by decide) checked.header) _).trans
    checked.entries
  entry := by
    intro below
    have room : vtableOf buf pos + (f.slot + 2) ≤ buf.length :=
      (Nat.add_le_add_left (Nat.lt_of_le_of_ne below fun cut => whole cut.symm) _).trans
        checked.entries
    rw [checked.inRange (by omega)]
    omega
  field := by
    intro held
    obtain ⟨-, levels, verified⟩ := checked.found mem whole held
    exact verifyField_span verified

theorem readScalarSlot : fbReadScalarSlot buf pos f.slot = valueOf buf pos f.slot 1 := by
  simp only [fbReadScalarSlot, ← checked.vtable, valueOf]
  rw [← vtableLen]
  by_cases held : entryOf buf pos f.slot = 0
  · rw [if_pos held]
    split
    · rfl
    rename_i room
    rw [entryOf, if_pos (by omega), checked.inRange
      ((Nat.add_le_add_left (by omega) _).trans checked.entries)] at held
    rw [if_pos held]
  · have below := below_of_entry held
    have entry : entryOf buf pos f.slot = uintAt buf (vtableOf buf pos + f.slot) 2 := by
      rw [entryOf, if_pos below, checked.inRange
        ((Nat.add_le_add_left below.le _).trans checked.entries)]
    have room : f.slot + 2 ≤ vtableLen buf pos := Nat.lt_of_le_of_ne below fun cut => whole cut.symm
    rw [if_neg (Nat.not_lt.mpr room), ← entry, if_neg held, if_neg held,
      (checked.found mem whole held).1]

theorem followed (found : targetOf buf pos f.slot = some target) :
    ∃ levels, verifyField (verifyTableAt buf levels) buf f (fieldOf buf pos f.slot) pos = true ∧
      target = wrapU32 (fieldOf buf pos f.slot + uintAt buf (fieldOf buf pos f.slot) 4) := by
  unfold targetOf at found
  split at found
  · cases found
  · next held =>
    obtain ⟨-, levels, verified⟩ := checked.found mem whole held
    exact ⟨levels, verified, (Option.some.inj found).symm⟩

variable {inner : FbTable}

theorem nested (kind : f.kind = .tableRef) (found : targetOf buf pos f.slot = some target)
    (resolved : (f.nestedFor.elim f.nested fun nestedFor => nestedFor buf pos) = some inner) :
    CheckedTable buf target inner := by
  obtain ⟨levels, verified, rfl⟩ := checked.followed mem whole found
  simp only [verifyField, kind, resolved] at verified
  split at verified
  · cases verified
  · next reached =>
    obtain ⟨-, rfl, -⟩ := fbFollowRef_some reached
    exact checkedTable checked.short verified

theorem vector (kind : f.kind = .tableVector) (found : targetOf buf pos f.slot = some vec)
    (resolved : f.nested = some inner) :
    vec + 4 ≤ buf.length ∧ ∀ index < uintAt buf vec 4, itemOf vec index + 4 ≤ buf.length ∧
      CheckedTable buf (wrapU32 (itemOf vec index + uintAt buf (itemOf vec index) 4)) inner := by
  obtain ⟨levels, verified, rfl⟩ := checked.followed mem whole found
  simp only [verifyField, kind, resolved] at verified
  split at verified
  · cases verified
  rename_i reached
  obtain ⟨-, rfl, room⟩ := fbFollowRef_some reached
  rw [checked.inRange (by omega)]
  simp only [Bool.and_eq_true, decide_eq_true_eq, all_some, List.all_eq_true,
    mem_range] at verified
  obtain ⟨⟨prefixed, fits⟩, items⟩ := verified
  refine ⟨prefixed, fun index inside => ?_⟩
  have listed := items index inside
  have place : itemOf (fieldOf buf pos f.slot + uintAt buf (fieldOf buf pos f.slot) 4) index =
      fieldOf buf pos f.slot + uintAt buf (fieldOf buf pos f.slot) 4 + 4 + index * 4 :=
    checked.inRange (by omega)
  rw [place]
  exact ⟨by omega, checkedTable checked.short listed.2⟩

end CheckedTable

end Checked

section Handlers

variable {buf : List UInt8} {pos : Nat} {desc : FbTable}

theorem CheckedTable.fieldFits_iff (checked : CheckedTable buf pos desc)
    (covered : ∃ f ∈ desc.fields, f.slot = slot ∧ f.span = width) :
    FieldFits buf False pos slot width ↔ FieldFits buf True pos slot width := by
  obtain ⟨f, mem, rfl, rfl⟩ := covered
  rw [fieldFits_false]
  constructor
  · intro readable _
    exact readable
  intro fits
  by_cases cut : CutsSlot buf pos f.slot
  · exact fits fun _ => cut
  · exact checked.readable mem cut

theorem CheckedTable.fieldsFit_iff (checked : CheckedTable buf pos desc)
    (covered : ∀ read ∈ reads, ∃ f ∈ desc.fields, f.slot = read.1 ∧ f.span = read.2) :
    FieldsFit buf False pos reads ↔ FieldsFit buf True pos reads :=
  forall₂_congr fun read listed => checked.fieldFits_iff (covered read listed)

theorem requestReads_covered (desc : FbTable) : ∀ read ∈ TableAccess.requestReads desc,
    ∃ f ∈ desc.fields, f.slot = read.1 ∧ f.span = read.2 := by
  cases desc <;> decide

theorem handleMetaDBMessage_isSome (short : buf.length < 2 ^ 32) (access : TableAccess)
    (msg : Nat) : (access.handleMetaDBMessage buf msg).isSome ↔ MessageFits buf False msg := by
  simp only [TableAccess.handleMetaDBMessage, bind_eq_bind, scalar_bind, MessageFits,
    fieldFits_false]
  refine and_congr_right fun _ => and_congr_right fun _ => ?_
  cases fbRequestDescriptor (valueOf buf msg 6 1) with
  | none => simp
  | some desc =>
    simp only [Option.some.injEq, forall_eq']
    rw [access.union_eq, tableTarget_bind]
    refine and_congr_right fun _ => ?_
    cases targetOf buf msg 8 with
    | none => simp
    | some req =>
      simp only [Option.some.injEq, forall_eq']
      split
      · next verified =>
        rw [readScalars_isSome,
          (checkedTable short verified).fieldsFit_iff (requestReads_covered desc)]
        simp [verified]
      · next refused => simp [refused]

theorem dispatchFlatBufferFrame_isSome (short : buf.length < 2 ^ 32) (access : TableAccess)
    (frame : Nat) :
    (access.dispatchFlatBufferFrame buf frame).isSome ↔ FrameFits buf False frame := by
  simp only [TableAccess.dispatchFlatBufferFrame, bind_eq_bind, scalar_bind, FrameFits,
    fieldFits_false, false_and]
  refine and_congr_right fun _ => ?_
  split
  · next message =>
    rw [access.union_eq, tableTarget_bind]
    simp only [message, true_imp_iff]
    refine and_congr_right fun _ => ?_
    cases targetOf buf frame 6 with
    | none => simp
    | some msg =>
      simp only [Option.some.injEq, forall_eq']
      exact handleMetaDBMessage_isSome short access msg
  · next other => simp [other]

theorem handleQuestSet_isSome (access : TableAccess) (req : Nat) :
    (access.handleQuestSet buf req).isSome ↔ QuestsFit buf False req := by
  simp only [TableAccess.handleQuestSet, bind_eq_bind, scalar_bind, QuestsFit,
    fieldFits_false, false_and]
  refine and_congr_right fun _ => ?_
  simp only [access.vectorLen_eq, tableVectorLen, bind_eq_bind, bind_assoc, tableTarget_bind]
  refine and_congr_right fun readable => ?_
  have again : ∀ {β : Type} (next : Option Nat → Option β),
      ((tableTarget buf req 6).bind next).isSome ↔ (next (targetOf buf req 6)).isSome :=
    fun next => (tableTarget_bind next).trans (and_iff_right readable)
  cases target : targetOf buf req 6 with
  | none => simp
  | some vec =>
    simp only [elim_some, getUint_bind, forM_isSome, mem_range, Option.some.injEq,
      forall_eq', VectorFits, false_or]
    refine and_congr_right fun _ => forall₂_congr fun index _ => ?_
    simp only [access.vectorTable_eq, tableVectorItem, bind_eq_bind, bind_assoc,
      again, target, elim_some, map_eq_bind, getUint_bind]
    exact and_congr_right fun _ => readScalars_isSome access _

theorem CheckedTable.messageFits_iff (checked : CheckedTable buf pos .metaDBMessage) :
    MessageFits buf False pos ↔ MessageFits buf True pos := by
  refine and_congr (checked.fieldFits_iff (by decide)) (and_congr
    (checked.fieldFits_iff (by decide)) (forall₂_congr fun desc _ => and_congr_left fun _ => ?_))
  exact checked.fieldFits_iff (by decide)

theorem CheckedTable.frameFits_iff (checked : CheckedTable buf pos .metaDBFrame) :
    FrameFits buf False pos ↔ FrameFits buf True pos := by
  refine and_congr (checked.fieldFits_iff (by decide)) (forall_congr' fun message => and_congr
    (checked.fieldFits_iff (by decide)) (forall₂_congr fun msg found => ?_))
  rw [false_and, true_and]
  by_cases cut : CutsSlot buf pos 6
  · simp only [cut, not_true_eq_false]
  have whole : ¬ CutsSlot buf pos 4 := by
    have below := below_of_target found
    unfold CutsSlot
    omega
  have typed : ({ slot := 4, kind := .u8 } : FbField) ∈ FbTable.metaDBFrame.fields :=
    mem_cons_self
  have discriminator := checked.readScalarSlot typed whole
  have resolved : ((some fbMetaDBFramePayload).elim none fun nestedFor => nestedFor buf pos) =
      some FbTable.metaDBMessage := by
    rw [elim_some, fbMetaDBFramePayload, discriminator, if_pos message]
  have referred : ({ slot := 6, kind := .tableRef, nestedFor := some fbMetaDBFramePayload } :
      FbField) ∈ FbTable.metaDBFrame.fields := mem_cons_of_mem _ mem_cons_self
  have inner := checked.nested referred cut rfl found resolved
  simp only [cut, not_false_eq_true]
  exact inner.messageFits_iff

theorem CheckedTable.questsFit_iff (checked : CheckedTable buf pos .questProgressUpdate) :
    QuestsFit buf False pos ↔ QuestsFit buf True pos := by
  refine and_congr (checked.fieldFits_iff (by decide)) (and_congr
    (checked.fieldFits_iff (by decide)) (forall₂_congr fun vec found => ?_))
  rw [false_and, true_and]
  by_cases cut : CutsSlot buf pos 6
  · simp only [cut, not_true_eq_false]
  have listed : ({ slot := 6, kind := .tableVector, nested := some .questEntry } : FbField) ∈
      FbTable.questProgressUpdate.fields := mem_cons_of_mem _ mem_cons_self
  obtain ⟨prefixed, items⟩ := checked.vector listed cut rfl found rfl
  simp only [cut, not_false_eq_true, VectorFits, prefixed, or_true, true_and]
  refine forall₂_congr fun index inside => ?_
  obtain ⟨room, entry⟩ := items index inside
  exact and_congr (iff_of_true (.inr room) (.inl trivial))
    (entry.fieldsFit_iff (by decide))

theorem FbHandler.isSome_iff_fits (handler : FbHandler)
    (checked : CheckedTable buf pos handler.desc) (access : TableAccess) :
    (handler.access access buf pos).isSome ↔ handler.Fits buf True pos := by
  cases handler with
  | frame =>
    exact (dispatchFlatBufferFrame_isSome checked.short access pos).trans checked.frameFits_iff
  | questSet => exact (handleQuestSet_isSome access pos).trans checked.questsFit_iff
  | questGet | questCompleted | questExchangeRequest | questExchangeCooldownGet | playerJoined |
    playerLeft =>
    exact (readScalars_isSome access _).trans (checked.fieldsFit_iff (by decide))

end Handlers

structure FbPayload where
  bytes : List UInt8
  short : bytes.length < 2 ^ 32

/-- What a handler reads of a payload that its check has accepted lies in the buffer. -/
def FbHandler.InRange (handler : FbHandler) (access : TableAccess) (buf : List UInt8) : Prop :=
  ∀ pos, verifyRoot buf handler.desc = some pos → (handler.access access buf pos).isSome

theorem FbHandler.inRange_iff_cuts_fit (handler : FbHandler) (access : TableAccess)
    (payload : FbPayload) : handler.InRange access payload.bytes ↔
      ∀ pos, verifyRoot payload.bytes handler.desc = some pos →
        handler.Fits payload.bytes True pos := by
  refine forall₂_congr fun pos accepted => ?_
  simp only [verifyRoot, Option.ite_none_left_eq_some, Option.ite_none_right_eq_some,
    Option.some.injEq] at accepted
  obtain ⟨-, verified, rfl⟩ := accepted
  exact handler.isSome_iff_fits (checkedTable payload.short verified) access

def plainAccess : TableAccess :=
  ⟨tableScalar, tableTarget, tableVectorLen, tableVectorItem, rfl, rfl, rfl, rfl⟩

/-- A table at 4 and at 8 its vtable, five bytes long, which end the payload. -/
def cutPayload : FbPayload := ⟨[4, 0, 0, 0, 252, 255, 255, 255, 5, 0, 4, 0, 0], by decide⟩

theorem FbHandler.playerJoined_out_of_range : verifyRoot cutPayload.bytes .playerJoined = some 4 ∧
      playerJoined.access plainAccess cutPayload.bytes 4 = none ∧
      ¬ playerJoined.InRange plainAccess cutPayload.bytes := by
  have accepted : verifyRoot cutPayload.bytes .playerJoined = some 4 := by decide +kernel
  have panics : playerJoined.access plainAccess cutPayload.bytes 4 = none := by decide +kernel
  refine ⟨accepted, panics, fun safe => ?_⟩
  have read := safe 4 accepted
  rw [panics] at read
  cases read

end GtnhPlatform.MetaDb
