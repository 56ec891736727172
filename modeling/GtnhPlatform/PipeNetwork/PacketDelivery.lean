import GtnhPlatform.PipeNetwork.CablePackets

namespace GtnhPlatform.PipeNetwork

open List

namespace CableGraph

theorem pathBy_eq (reached : Nat → List Nat) (target rounds : Nat) (visited : List Nat)
    (queue : List (Nat × List Nat)) :
    pathBy reached target rounds visited queue =
      QueueSearch.pathTo reached (fun cable => decide (cable = target)) rounds visited queue := by
  induction rounds generalizing visited queue with
  | zero => rfl
  | succ rounds ih =>
    cases queue with
    | nil => rfl
    | cons entry queue =>
      obtain ⟨current, path⟩ := entry
      rw [pathBy, QueueSearch.pathTo]
      simp only [decide_eq_true_eq]
      split
      · rfl
      · exact ih _ _

theorem mem_reachedBy {graph : CableGraph}
    (mem : other ∈ reachedBy graph.nodes graph.indexed current) :
    (graph.nodes.lookup other).isSome := by
  rw [reachedBy] at mem
  cases present : graph.nodes.lookup current with
  | none =>
    rw [present] at mem
    exact nomatch mem
  | some node =>
    rw [present] at mem
    obtain ⟨face, -, found⟩ := mem_filterMap.mp mem
    dsimp only at found
    split at found
    · exact nomatch found
    split at found
    · exact nomatch found
    rename_i id _ neighbour stored
    split at found
    · cases found
      rw [stored]
      rfl
    · exact nomatch found

end CableGraph

namespace PowerGraph

def Goal (power : PowerGraph) (packet : EnergyPacket) (cable : Nat) : Prop :=
  if packet.targetId = 0 then power.isMachineAdjacent cable = true
  else power.wired.machineToCable.cables.lookup packet.targetId = some cable

def Routable (power : PowerGraph) (start : Nat) (packet : EnergyPacket) : Prop :=
  ∃ cable, power.Goal packet cable ∧ QueueSearch.Reaches power.reached start cable

def voltageAfter (effectiveVoltage : Nat → Nat → Option Nat) (power : PowerGraph) :
    Nat → List Nat → Option Nat
  | voltage, [] => some voltage
  | voltage, cable :: rest =>
    (power.nodeOf cable).bind fun node =>
      (effectiveVoltage node.lossPerBlock voltage).bind fun left =>
        voltageAfter effectiveVoltage power left rest

def carry (effectiveVoltage : Nat → Nat → Option Nat) (power : PowerGraph)
    (packet : EnergyPacket) (current : Nat) : List Nat → Except Obstacle Delivery
  | [] => .ok (current, packet)
  | next :: rest =>
    match power.hop effectiveVoltage current next packet with
    | (_, packet, none) => carry effectiveVoltage power packet next rest
    | (_, _, some obstacle) => .error obstacle

variable {effectiveVoltage : Nat → Nat → Option Nat} {power : PowerGraph}

structure DeliversOnce (effectiveVoltage : Nat → Nat → Option Nat) (power : PowerGraph)
    (start : Nat) (packet : EnergyPacket) (path : List Nat) (deliveries : List Delivery) :
    Prop where
  unroutable : path = [] → ¬power.Routable start packet ∧ deliveries = []
  carried : ∀ first rest, path = first :: rest →
    match carry effectiveVoltage power packet first rest with
    | .ok delivery =>
      deliveries = [delivery] ∧ path.getLast? = some delivery.1 ∧
        ∃ voltage, voltageAfter effectiveVoltage power packet.voltage path.dropLast =
          some voltage ∧ delivery.2 = { packet with voltage }
    | .error obstacle => deliveries = [] ∧ obstacle ≠ .missing

def EachTurn (effectiveVoltage : Nat → Nat → Option Nat)
    (condition : PowerGraph → Nat → EnergyPacket → Prop) (power : PowerGraph) : Prop :=
  (cableTurns effectiveVoltage).Along (fun current id => (current.nodeOf id).isSome →
      (packetTurns effectiveVoltage id).Along (fun before packet => condition before id packet)
        (current.takePackets id) (current.loads id).packetsIn)
    power.startTick power.wired.graph.cableNetworks.flatten

structure DeliversEach (effectiveVoltage : Nat → Nat → Option Nat) (power : PowerGraph) :
    Prop where
  taken : ∀ id, (power.nodeOf id).isSome → ((power.moved effectiveVoltage).loads id).packetsIn = []
  leaving : ∀ id, ((power.moved effectiveVoltage).loads id).packetsOut =
    (power.loads id).packetsOut ++ ((power.deliveries effectiveVoltage).filter
      fun delivery => delivery.1 = id).map Prod.snd
  each : power.EachTurn effectiveVoltage fun before id packet =>
    DeliversOnce effectiveVoltage before id packet (before.packetPath id packet)
      (before.routePacket effectiveVoltage id packet).2

theorem present_of_reaches {start cable : Nat} (present : (power.nodeOf start).isSome)
    (reaches : QueueSearch.Reaches power.reached start cable) : (power.nodeOf cable).isSome := by
  cases reaches with
  | refl => exact present
  | tail _ step => exact CableGraph.mem_reachedBy step

variable {start : Nat}

theorem within_keys (present : (power.nodeOf start).isSome) :
    ∀ cable, QueueSearch.Reaches power.reached start cable →
      cable ∈ power.wired.graph.nodes.keys := by
  intro cable reaches
  have stored := present_of_reaches present reaches
  exact AList.mem_keys.mpr (AList.lookup_isSome.mp stored)

theorem pathToMachine_traced (present : (power.nodeOf start).isSome) :
    QueueSearch.Traced power.reached power.isMachineAdjacent start (power.pathToMachine start) :=
  QueueSearch.pathTo_traced _ (within_keys present) (Nat.lt_succ_self _)

theorem findPath_traced {start target : Nat} (present : (power.nodeOf start).isSome)
    (numbered : start ≠ 0 ∧ target ≠ 0) :
    QueueSearch.Traced power.reached (fun cable => decide (cable = target)) start
      (power.wired.graph.findPath start target) := by
  rw [CableGraph.findPath, CableGraph.pathFrom, if_neg (not_or.mpr numbered), CableGraph.pathBy_eq]
  exact QueueSearch.pathTo_traced _ (within_keys present) (Nat.lt_succ_self _)

theorem findPath_zero {start target : Nat} (zero : start = 0 ∨ target = 0) :
    power.wired.graph.findPath start target = [] := by
  rw [CableGraph.findPath, CableGraph.pathFrom, if_pos zero]

/-- The search for a path leaves out the cables numbered 0. -/
def Addressed (power : PowerGraph) (start : Nat) (packet : EnergyPacket) : Prop :=
  packet.targetId ≠ 0 →
    start ≠ 0 ∧ power.wired.machineToCable.cables.lookup packet.targetId ≠ some 0

inductive Routed (power : PowerGraph) (start : Nat) (packet : EnergyPacket) : List Nat → Prop
  | path (cable : Nat) (path : List Nat) (goal : power.Goal packet cable)
      (trail : QueueSearch.Trail power.reached start cable path)
      (addressed : power.Addressed start packet) : Routed power start packet path
  | unroutable (none : ¬power.Routable start packet) : Routed power start packet []
  | unaddressed (none : ¬power.Addressed start packet) : Routed power start packet []

theorem packetPath_routed (present : (power.nodeOf start).isSome) (packet : EnergyPacket) :
    power.Routed start packet (power.packetPath start packet) := by
  rw [packetPath]
  split
  · next untargeted =>
    have traced := pathToMachine_traced present
    generalize power.pathToMachine start = path at traced ⊢
    cases traced with
    | none unreachable =>
      apply Routed.unroutable
      rintro ⟨cable, goal, reaches⟩
      rw [Goal, if_pos untargeted, unreachable cable reaches] at goal
      exact nomatch goal
    | path last _ trail reached =>
      apply Routed.path last _ _ trail fun targeted => absurd untargeted targeted
      rw [Goal, if_pos untargeted]
      exact reached
  · next targeted =>
    cases attached : power.wired.machineToCable.cables.lookup packet.targetId with
    | none =>
      apply Routed.unroutable
      rintro ⟨cable, goal, -⟩
      rw [Goal, if_neg targeted, attached] at goal
      exact nomatch goal
    | some cable =>
      dsimp only
      by_cases numbered : start ≠ 0 ∧ cable ≠ 0
      · have addressed : power.Addressed start packet := by
          rw [Addressed, attached]
          exact fun _ => ⟨numbered.1, fun zero => numbered.2 (Option.some.inj zero)⟩
        have traced := findPath_traced present numbered
        generalize power.wired.graph.findPath start cable = path at traced ⊢
        cases traced with
        | none unreachable =>
          apply Routed.unroutable
          rintro ⟨other, goal, reaches⟩
          rw [Goal, if_neg targeted, attached] at goal
          cases goal
          exact absurd rfl (of_decide_eq_false (unreachable cable reaches))
        | path last _ trail reached =>
          apply Routed.path last _ _ trail addressed
          rw [Goal, if_neg targeted, attached, of_decide_eq_true reached]
      · have zero : start = 0 ∨ cable = 0 := by omega
        rw [findPath_zero zero]
        apply Routed.unaddressed
        intro addressed
        obtain ⟨first, last⟩ := addressed targeted
        rw [attached] at last
        exact numbered ⟨first, fun none => last (congrArg some none)⟩

variable {packet : EnergyPacket} {current next : Nat} {node nextNode : CableNode} (rest : List Nat)

theorem walk_of_pass (passes : (power.hop effectiveVoltage current next packet).2.2 = none) :
    ∃ later, (power.walk effectiveVoltage packet current (next :: rest)).2 =
      (next, (power.hop effectiveVoltage current next packet).2.1) :: later := by
  rw [walk]
  generalize power.hop effectiveVoltage current next packet = result at passes ⊢
  obtain ⟨after, moved, found⟩ := result
  obtain rfl : found = none := passes
  exact ⟨_, rfl⟩

variable {obstacle : Obstacle}

theorem walk_of_stop
    (stops : (power.hop effectiveVoltage current next packet).2.2 = some obstacle) :
    power.walk effectiveVoltage packet current (next :: rest) =
      (power.hop effectiveVoltage current next packet).1.walk effectiveVoltage
        (power.hop effectiveVoltage current next packet).2.1 current rest := by
  rw [walk]
  generalize power.hop effectiveVoltage current next packet = result at stops ⊢
  obtain ⟨after, moved, found⟩ := result
  obtain rfl : found = some obstacle := stops
  rfl

theorem carry_of_pass (passes : (power.hop effectiveVoltage current next packet).2.2 = none) :
    carry effectiveVoltage power packet current (next :: rest) =
      carry effectiveVoltage power (power.hop effectiveVoltage current next packet).2.1 next
        rest := by
  rw [carry]
  generalize power.hop effectiveVoltage current next packet = result at passes ⊢
  obtain ⟨after, moved, found⟩ := result
  obtain rfl : found = none := passes
  rfl

theorem carry_of_stop
    (stops : (power.hop effectiveVoltage current next packet).2.2 = some obstacle) :
    carry effectiveVoltage power packet current (next :: rest) = .error obstacle := by
  rw [carry]
  generalize power.hop effectiveVoltage current next packet = result at stops ⊢
  obtain ⟨after, moved, found⟩ := result
  obtain rfl : found = some obstacle := stops
  rfl

theorem packets_see (power : PowerGraph) (cable voltage id : Nat) :
    ((power.see cable voltage).loads id).packetsThisTick = (power.loads id).packetsThisTick := by
  rw [see, updateLoad]
  dsimp only
  split
  · next same => rw [same]
  · rfl

theorem packets_count (power : PowerGraph) (cable : Nat) :
    ((power.count cable).loads cable).packetsThisTick =
      (power.loads cable).packetsThisTick + 1 := by
  rw [count, updateLoad]
  dsimp only
  rw [if_pos rfl]

inductive Hopped (effectiveVoltage : Nat → Nat → Option Nat) (power : PowerGraph)
    (packet : EnergyPacket) (current next : Nat) (node : CableNode) :
    PowerGraph × EnergyPacket × Option Obstacle → Prop
  | missing (absent : power.nodeOf next = none) :
      Hopped effectiveVoltage power packet current next node (power, packet, some .missing)
  | overVoltage (nextNode : CableNode) (present : power.nodeOf next = some nextNode)
      (more : nextNode.maxVoltage < packet.voltage) :
      Hopped effectiveVoltage power packet current next node
        (power.see next packet.voltage, packet, some .overVoltage)
  | dissipated (nextNode : CableNode) (present : power.nodeOf next = some nextNode)
      (within : packet.voltage ≤ nextNode.maxVoltage)
      (lost : effectiveVoltage node.lossPerBlock packet.voltage = none) :
      Hopped effectiveVoltage power packet current next node
        (power.see next packet.voltage, packet, some .dissipated)
  | overAmpacity (nextNode : CableNode) (present : power.nodeOf next = some nextNode)
      (within : packet.voltage ≤ nextNode.maxVoltage) (voltage : Nat)
      (left : effectiveVoltage node.lossPerBlock packet.voltage = some voltage)
      (full : node.ampacity ≤ (power.loads current).packetsThisTick) :
      Hopped effectiveVoltage power packet current next node
        ((power.see next packet.voltage).count current, { packet with voltage }, some .overAmpacity)
  | passed (nextNode : CableNode) (present : power.nodeOf next = some nextNode)
      (within : packet.voltage ≤ nextNode.maxVoltage) (voltage : Nat)
      (left : effectiveVoltage node.lossPerBlock packet.voltage = some voltage)
      (free : (power.loads current).packetsThisTick < node.ampacity) :
      Hopped effectiveVoltage power packet current next node
        ((power.see next packet.voltage).count current, { packet with voltage }, none)

theorem hop_hopped (effectiveVoltage : Nat → Nat → Option Nat)
    (here : power.nodeOf current = some node) (next : Nat) (packet : EnergyPacket) :
    Hopped effectiveVoltage power packet current next node
      (power.hop effectiveVoltage current next packet) := by
  rw [hop, here]
  cases there : power.nodeOf next with
  | none => exact Hopped.missing there
  | some nextNode =>
    dsimp only
    split
    · next more => exact Hopped.overVoltage nextNode there more
    rename_i within
    cases left : effectiveVoltage node.lossPerBlock packet.voltage with
    | none => exact Hopped.dissipated nextNode there (not_lt.mp within) left
    | some voltage =>
      dsimp only
      rw [packets_count, packets_see]
      split
      · next full =>
        exact Hopped.overAmpacity nextNode there (not_lt.mp within) voltage left
          (Nat.lt_succ_iff.mp full)
      · next free =>
        exact Hopped.passed nextNode there (not_lt.mp within) voltage left
          (Nat.lt_of_succ_le (not_lt.mp free))

structure Moves (power : PowerGraph) (deliveries : List Delivery) (out : PowerGraph) : Prop where
  wired : out.wired = power.wired
  waiting : ∀ id, (out.loads id).packetsIn = (power.loads id).packetsIn
  leaving : ∀ id, (out.loads id).packetsOut = (power.loads id).packetsOut ++
    (deliveries.filter fun delivery => delivery.1 = id).map Prod.snd

variable {middle out : PowerGraph} {first second : List Delivery}

theorem Moves.refl (power : PowerGraph) : power.Moves [] power where
  wired := rfl
  waiting _ := rfl
  leaving _ := (append_nil _).symm

theorem Moves.trans (before : power.Moves first middle) (after : middle.Moves second out) :
    power.Moves (first ++ second) out where
  wired := after.wired.trans before.wired
  waiting id := (after.waiting id).trans (before.waiting id)
  leaving id := by
    rw [after.leaving, before.leaving, filter_append, map_append, append_assoc]

theorem updateLoad_moves (power : PowerGraph) (cable : Nat) {change : CableLoad → CableLoad}
    (packetsIn : ∀ load, (change load).packetsIn = load.packetsIn)
    (packetsOut : ∀ load, (change load).packetsOut = load.packetsOut) :
    power.Moves [] (power.updateLoad cable change) where
  wired := rfl
  waiting id := by
    rw [updateLoad]
    dsimp only
    split
    · next same => rw [packetsIn, same]
    · rfl
  leaving id := by
    rw [updateLoad]
    dsimp only
    split
    · next same => rw [packetsOut, same]; exact (append_nil _).symm
    · exact (append_nil _).symm

theorem see_moves (power : PowerGraph) (cable voltage : Nat) :
    power.Moves [] (power.see cable voltage) :=
  power.updateLoad_moves cable (fun _ => rfl) fun _ => rfl

theorem count_moves (power : PowerGraph) (cable : Nat) : power.Moves [] (power.count cable) :=
  power.updateLoad_moves cable (fun _ => rfl) fun _ => rfl

theorem deliver_moves (power : PowerGraph) (cable : Nat) (packet : EnergyPacket) :
    power.Moves [(cable, packet)] (power.deliver cable packet) where
  wired := rfl
  waiting id := by
    rw [deliver, updateLoad]
    dsimp only
    split
    · next same => rw [same]
    · rfl
  leaving id := by
    rw [deliver, updateLoad]
    dsimp only
    by_cases same : id = cable
    · rw [if_pos same, same, filter_singleton, decide_eq_true rfl]
      rfl
    · rw [if_neg same, filter_singleton, decide_eq_false (Ne.symm same)]
      exact (append_nil _).symm

theorem hop_moves (effectiveVoltage : Nat → Nat → Option Nat) (power : PowerGraph)
    (current next : Nat) (packet : EnergyPacket) :
    power.Moves [] (power.hop effectiveVoltage current next packet).1 := by
  cases here : power.nodeOf current with
  | none =>
    rw [hop, here]
    exact Moves.refl power
  | some node =>
    have hopped := hop_hopped effectiveVoltage here next packet
    generalize power.hop effectiveVoltage current next packet = result at hopped ⊢
    cases hopped with
    | missing => exact Moves.refl power
    | overVoltage | dissipated => exact see_moves power _ _
    | overAmpacity | passed => exact (see_moves power _ _).trans (count_moves _ _)

def Held (effectiveVoltage : Nat → Nat → Option Nat) (power : PowerGraph)
    (packet : EnergyPacket) (first : Nat) (rest : List Nat) : Prop :=
  ∀ node, power.nodeOf first = some node → node.ampacity ≤ (power.loads first).packetsThisTick ∨
      effectiveVoltage node.lossPerBlock packet.voltage = none ∨
        ∀ cable ∈ rest, ∀ other, power.nodeOf cable = some other → other.maxVoltage < packet.voltage

theorem Held.stops (here : power.nodeOf current = some node) {rest : List Nat}
    (held : Held effectiveVoltage power packet current (next :: rest)) :
    ∃ obstacle, (power.hop effectiveVoltage current next packet).2.2 = some obstacle ∧
      Held effectiveVoltage (power.hop effectiveVoltage current next packet).1
        (power.hop effectiveVoltage current next packet).2.1 current rest := by
  have reason := held node here
  have hopped := hop_hopped effectiveVoltage here next packet
  generalize power.hop effectiveVoltage current next packet = result at hopped ⊢
  have low : (∀ cable ∈ next :: rest, ∀ other, power.nodeOf cable = some other →
      other.maxVoltage < packet.voltage) → ∀ cable ∈ rest, ∀ other,
        power.nodeOf cable = some other → other.maxVoltage < packet.voltage :=
    fun all cable mem => all cable (mem_cons_of_mem next mem)
  cases hopped with
  | missing absent =>
    refine ⟨_, rfl, ?_⟩
    intro other same
    cases here.symm.trans same
    exact reason.imp_right (Or.imp_right low)
  | overVoltage nextNode present more =>
    refine ⟨_, rfl, ?_⟩
    intro other same
    cases here.symm.trans same
    rw [packets_see]
    exact reason.imp_right (Or.imp_right low)
  | dissipated nextNode present within lost =>
    refine ⟨_, rfl, ?_⟩
    intro other same
    cases here.symm.trans same
    exact Or.inr (Or.inl lost)
  | overAmpacity nextNode present within voltage left full =>
    refine ⟨_, rfl, ?_⟩
    intro other same
    cases here.symm.trans same
    rw [packets_count, packets_see]
    exact Or.inl (Nat.le_succ_of_le full)
  | passed nextNode present within voltage left free =>
    obtain full | lost | all := reason
    · exact absurd free full.not_gt
    · rw [lost] at left
      exact nomatch left
    · exact absurd within (all next mem_cons_self nextNode present).not_ge

theorem walk_of_held (here : power.nodeOf current = some node) {rest : List Nat}
    (held : Held effectiveVoltage power packet current rest) :
    (power.walk effectiveVoltage packet current rest).2 = [] := by
  induction rest generalizing power packet with
  | nil => rfl
  | cons next rest ih =>
    obtain ⟨obstacle, stops, later⟩ := held.stops here
    rw [walk_of_stop rest stops]
    apply ih _ later
    rw [nodeOf, (power.hop_moves effectiveVoltage current next packet).wired]
    exact here

theorem walk_of_not_held {rest : List Nat}
    (moves : ¬Held effectiveVoltage power packet current rest) :
    (power.walk effectiveVoltage packet current rest).2 ≠ [] := by
  simp only [Held, not_forall, not_or, not_lt, not_le] at moves
  obtain ⟨node, here, free, left, cable, mem, other, present, within⟩ := moves
  obtain ⟨voltage, left⟩ := Option.ne_none_iff_exists'.mp left
  induction rest generalizing power with
  | nil => exact nomatch mem
  | cons next rest ih =>
    have hopped := hop_hopped effectiveVoltage here next packet
    cases stops : (power.hop effectiveVoltage current next packet).2.2 with
    | none =>
      obtain ⟨later, result⟩ := walk_of_pass rest stops
      rw [result]
      exact cons_ne_nil _ _
    | some obstacle =>
      rw [walk_of_stop rest stops]
      generalize power.hop effectiveVoltage current next packet = result at hopped stops ⊢
      cases hopped with
      | missing absent =>
        refine ih here free (mem_of_ne_of_mem ?_ mem) present
        rintro rfl
        rw [absent] at present
        exact nomatch present
      | overVoltage nextNode there more =>
        refine ih here ?_ (mem_of_ne_of_mem ?_ mem) present
        · rw [packets_see]
          exact free
        · rintro rfl
          cases present.symm.trans there
          exact within.not_gt more
      | dissipated nextNode there within lost =>
        rw [left] at lost
        exact nomatch lost
      | overAmpacity nextNode there within voltage left full => exact absurd full free.not_ge
      | passed nextNode there within voltage left free => exact nomatch stops

/-- The packets that the loop over the path treats as it should. -/
structure Deliverable (effectiveVoltage : Nat → Nat → Option Nat) (power : PowerGraph)
    (start : Nat) (packet : EnergyPacket) (path : List Nat) : Prop where
  addressed : power.Routable start packet → power.Addressed start packet
  several : path.length ≠ 1
  held : ∀ first second third rest, path = first :: second :: third :: rest →
    Held effectiveVoltage power packet first (second :: third :: rest)

theorem carry_ok {rest : List Nat} {delivery : Delivery} (here : power.nodeOf current = some node)
    (arrives : carry effectiveVoltage power packet current rest = .ok delivery) :
    (current :: rest).getLast? = some delivery.1 ∧
      ∃ voltage, voltageAfter effectiveVoltage power packet.voltage (current :: rest).dropLast =
        some voltage ∧ delivery.2 = { packet with voltage } := by
  induction rest generalizing current packet node with
  | nil =>
    cases arrives
    exact ⟨rfl, packet.voltage, rfl, rfl⟩
  | cons next rest ih =>
    have hopped := hop_hopped effectiveVoltage here next packet
    cases stops : (power.hop effectiveVoltage current next packet).2.2 with
    | some obstacle =>
      rw [carry_of_stop rest stops] at arrives
      exact nomatch arrives
    | none =>
      rw [carry_of_pass rest stops] at arrives
      generalize power.hop effectiveVoltage current next packet = result at *
      cases hopped with
      | passed nextNode there within voltage left free =>
        obtain ⟨last, final, after, same⟩ := ih there arrives
        refine ⟨?_, final, ?_, same⟩
        · rw [getLast?_cons_cons]
          exact last
        · rw [dropLast_cons_cons, voltageAfter, here, Option.bind_some, left]
          exact after
      | missing | overVoltage | dissipated | overAmpacity => exact nomatch stops

theorem carry_error {rest : List Nat} (all : ∀ cable ∈ current :: rest, (power.nodeOf cable).isSome)
    (fails : carry effectiveVoltage power packet current rest = .error obstacle) :
    obstacle ≠ .missing := by
  induction rest generalizing current packet with
  | nil => exact nomatch fails
  | cons next rest ih =>
    obtain ⟨node, here⟩ := Option.isSome_iff_exists.mp (all current mem_cons_self)
    have there := all next (mem_cons_of_mem current mem_cons_self)
    have hopped := hop_hopped effectiveVoltage here next packet
    cases stops : (power.hop effectiveVoltage current next packet).2.2 with
    | none =>
      rw [carry_of_pass rest stops] at fails
      exact ih (fun cable mem => all cable (mem_cons_of_mem current mem)) fails
    | some found =>
      rw [carry_of_stop rest stops] at fails
      cases fails
      generalize power.hop effectiveVoltage current next packet = result at hopped stops
      cases hopped with
      | missing absent =>
        rw [absent] at there
        exact nomatch there
      | overVoltage | dissipated | overAmpacity =>
        cases stops
        exact nofun
      | passed => exact nomatch stops

theorem walk_single (effectiveVoltage : Nat → Nat → Option Nat) (power : PowerGraph)
    (packet : EnergyPacket) (current next : Nat) :
    (power.walk effectiveVoltage packet current [next]).2 =
      match carry effectiveVoltage power packet current [next] with
      | .ok delivery => [delivery]
      | .error _ => [] := by
  rw [walk, carry]
  obtain ⟨after, moved, obstacle⟩ := power.hop effectiveVoltage current next packet
  cases obstacle <;> rfl

section Path

variable {start cable : Nat} {path : List Nat}

theorem deliversOnce_of_carry (trail : QueueSearch.Trail power.reached start cable path)
    (present : (power.nodeOf start).isSome) {deliveries : List Delivery}
    (delivered : ∀ first rest, path = first :: rest →
      deliveries = match carry effectiveVoltage power packet first rest with
        | .ok delivery => [delivery]
        | .error _ => []) :
    DeliversOnce effectiveVoltage power start packet path deliveries := by
  constructor
  · rintro rfl
    exact nomatch trail.first
  rintro first rest rfl
  obtain rfl := Option.some.inj trail.first
  obtain ⟨node, here⟩ := Option.isSome_iff_exists.mp present
  have result := delivered first rest rfl
  cases carried : carry effectiveVoltage power packet first rest with
  | ok delivery =>
    rw [carried] at result
    exact ⟨result, carry_ok here carried⟩
  | error obstacle =>
    rw [carried] at result
    refine ⟨result, carry_error ?_ carried⟩
    exact fun cable mem => present_of_reaches present (trail.reaches mem)

theorem deliversOnce_long_iff {first second third : Nat} {rest : List Nat}
    (trail : QueueSearch.Trail power.reached start cable (first :: second :: third :: rest))
    (present : (power.nodeOf start).isSome) :
    DeliversOnce effectiveVoltage power start packet (first :: second :: third :: rest)
        (power.walk effectiveVoltage packet first (second :: third :: rest)).2 ↔
      Held effectiveVoltage power packet first (second :: third :: rest) := by
  obtain rfl := Option.some.inj trail.first
  obtain ⟨node, here⟩ := Option.isSome_iff_exists.mp present
  constructor
  · intro delivers
    by_contra moves
    have some := walk_of_not_held moves
    have carried := delivers.carried first _ rfl
    cases arrives : carry effectiveVoltage power packet first (second :: third :: rest) with
    | error obstacle =>
      rw [arrives] at carried
      exact some carried.1
    | ok delivery =>
      rw [arrives] at carried
      obtain ⟨only, last, -⟩ := carried
      cases stops : (power.hop effectiveVoltage first second packet).2.2 with
      | some obstacle =>
        rw [carry_of_stop _ stops] at arrives
        exact nomatch arrives
      | none =>
        obtain ⟨later, result⟩ := walk_of_pass (third :: rest) stops
        rw [result] at only
        obtain ⟨same, -⟩ := cons.inj only
        rw [← same, getLast?_cons_cons, getLast?_cons_cons] at last
        have fresh := (nodup_cons.mp (nodup_cons.mp trail.distinct).2).1
        exact fresh (mem_of_getLast? last)
  · intro held
    apply deliversOnce_of_carry trail present
    rintro other tail split
    cases split
    obtain ⟨obstacle, stops, -⟩ := held.stops here
    rw [walk_of_held here held, carry_of_stop _ stops]

end Path

theorem deliversOnce_iff (effectiveVoltage : Nat → Nat → Option Nat)
    (present : (power.nodeOf start).isSome) (packet : EnergyPacket) :
    DeliversOnce effectiveVoltage power start packet (power.packetPath start packet)
        (power.routePacket effectiveVoltage start packet).2 ↔
      Deliverable effectiveVoltage power start packet (power.packetPath start packet) := by
  have routed := packetPath_routed present packet
  rw [routePacket]
  generalize power.packetPath start packet = path at routed ⊢
  cases routed with
  | unroutable none =>
    apply iff_of_true
    · exact ⟨fun _ => ⟨none, rfl⟩, nofun⟩
    · exact ⟨fun routable => absurd routable none, nofun, nofun⟩
  | unaddressed none =>
    constructor
    · intro delivers
      exact ⟨fun routable => absurd routable (delivers.unroutable rfl).1, nofun, nofun⟩
    · intro deliverable
      exact ⟨fun _ => ⟨fun routable => none (deliverable.addressed routable), rfl⟩, nofun⟩
  | path cable _ goal trail addressed =>
    match path with
    | [] => exact nomatch trail.first
    | [first] =>
      apply iff_of_false
      · intro delivers
        exact nomatch (delivers.carried first [] rfl).1
      · intro deliverable
        exact deliverable.several rfl
    | [first, second] =>
      apply iff_of_true
      · apply deliversOnce_of_carry trail present
        rintro other tail split
        cases split
        exact walk_single effectiveVoltage power packet first second
      · exact ⟨fun _ => addressed, nofun, nofun⟩
    | first :: second :: third :: rest =>
      apply (deliversOnce_long_iff trail present).trans
      constructor
      · intro held
        refine ⟨fun _ => addressed, ?_, ?_⟩
        · simp
        · rintro other next following tail split
          obtain ⟨rfl, rfl, rfl, rfl⟩ := by simpa using split
          exact held
      · intro deliverable
        exact deliverable.held first second third rest rfl

theorem walk_moves (effectiveVoltage : Nat → Nat → Option Nat) (power : PowerGraph)
    (packet : EnergyPacket) (current : Nat) (rest : List Nat) :
    power.Moves (power.walk effectiveVoltage packet current rest).2
      (power.walk effectiveVoltage packet current rest).1 := by
  induction rest generalizing power packet current with
  | nil => exact Moves.refl power
  | cons next rest ih =>
    have hopped := power.hop_moves effectiveVoltage current next packet
    rw [walk]
    generalize power.hop effectiveVoltage current next packet = result at hopped ⊢
    obtain ⟨after, moved, obstacle⟩ := result
    cases obstacle with
    | none =>
      have delivered := hopped.trans (deliver_moves after next moved)
      exact delivered.trans (ih (after.deliver next moved) moved next)
    | some obstacle => exact hopped.trans (ih after moved current)

theorem routePacket_moves (effectiveVoltage : Nat → Nat → Option Nat) (power : PowerGraph)
    (start : Nat) (packet : EnergyPacket) :
    power.Moves (power.routePacket effectiveVoltage start packet).2
      (power.routePacket effectiveVoltage start packet).1 := by
  rw [routePacket]
  split
  · exact Moves.refl power
  · exact power.walk_moves effectiveVoltage packet _ _

theorem packetTurns_moves (effectiveVoltage : Nat → Nat → Option Nat) (power : PowerGraph)
    (start : Nat) (packets : List EnergyPacket) :
    power.Moves ((packetTurns effectiveVoltage start).outputs power packets)
      ((packetTurns effectiveVoltage start).final power packets) :=
  (packetTurns effectiveVoltage start).invariant (fun _ _ => True)
    (fun _ current history => power.Moves history current) (Moves.refl power)
    (fun _ current _ packet before _ =>
      before.trans (current.routePacket_moves effectiveVoltage start packet))
    packets ((packetTurns effectiveVoltage start).along_true power packets)

structure Visited (power : PowerGraph) (ids : List Nat) (deliveries : List Delivery)
    (out : PowerGraph) : Prop where
  wired : out.wired = power.wired
  waiting : ∀ id, (out.loads id).packetsIn =
    if id ∈ ids ∧ (power.nodeOf id).isSome then [] else (power.loads id).packetsIn
  leaving : ∀ id, (out.loads id).packetsOut = (power.loads id).packetsOut ++
    (deliveries.filter fun delivery => delivery.1 = id).map Prod.snd

variable {deliveries : List Delivery}

theorem Visited.visit (visited : power.Visited ids deliveries middle)
    (effectiveVoltage : Nat → Nat → Option Nat) (id : Nat) : power.Visited (ids ++ [id])
      (deliveries ++ ((cableTurns effectiveVoltage).step middle id).2)
      ((cableTurns effectiveVoltage).step middle id).1 := by
  have same : middle.nodeOf id = power.nodeOf id := by
    rw [nodeOf, visited.wired]
    rfl
  cases present : power.nodeOf id with
  | none =>
    have idle : (cableTurns effectiveVoltage).step middle id = (middle, []) := by
      rw [cableTurns]
      dsimp only
      rw [same, present]
    rw [idle, append_nil]
    refine ⟨visited.wired, ?_, visited.leaving⟩
    intro other
    rw [visited.waiting]
    apply if_congr _ rfl rfl
    rw [mem_append, mem_singleton, or_and_right]
    refine (or_iff_left ?_).symm
    rintro ⟨rfl, alive⟩
    rw [present] at alive
    exact nomatch alive
  | some node =>
    have turns := packetTurns_moves effectiveVoltage (middle.takePackets id) id
      (middle.loads id).packetsIn
    have step : (cableTurns effectiveVoltage).step middle id =
        ((packetTurns effectiveVoltage id).final (middle.takePackets id)
            (middle.loads id).packetsIn,
          (packetTurns effectiveVoltage id).outputs (middle.takePackets id)
            (middle.loads id).packetsIn) := by
      rw [cableTurns]
      dsimp only
      rw [same, present]
    rw [step]
    refine ⟨turns.wired.trans visited.wired, ?_, ?_⟩
    · intro other
      rw [turns.waiting, takePackets, updateLoad]
      dsimp only
      by_cases here : other = id
      · rw [if_pos here, if_pos]
        rw [here, present]
        exact ⟨mem_append_right _ (mem_singleton_self id), rfl⟩
      · rw [if_neg here, visited.waiting]
        apply if_congr _ rfl rfl
        rw [mem_append, mem_singleton, or_iff_left here]
    · intro other
      have kept : ((middle.takePackets id).loads other).packetsOut =
          (middle.loads other).packetsOut := by
        rw [takePackets, updateLoad]
        dsimp only
        split
        · next here => rw [here]
        · rfl
      rw [turns.leaving, kept, visited.leaving, filter_append, map_append, append_assoc]

theorem moved_visited (effectiveVoltage : Nat → Nat → Option Nat) (power : PowerGraph) :
    power.Visited power.wired.graph.cableNetworks.flatten (power.deliveries effectiveVoltage)
      (power.moved effectiveVoltage) := by
  have start : power.Visited [] [] power.startTick := by
    refine ⟨rfl, ?_, fun _ => (append_nil _).symm⟩
    intro id
    rw [if_neg fun both => not_mem_nil both.1]
    rfl
  exact (cableTurns effectiveVoltage).invariant (fun _ _ => True)
    (fun ids current history => power.Visited ids history current) start
    (fun _ _ _ id before _ => before.visit effectiveVoltage id) _
    ((cableTurns effectiveVoltage).along_true _ _)

structure AllDeliverable (effectiveVoltage : Nat → Nat → Option Nat) (power : PowerGraph) :
    Prop where
  listed : ∀ id, (power.nodeOf id).isSome → (power.loads id).packetsIn ≠ [] →
    id ∈ power.wired.graph.cableNetworks.flatten
  each : power.EachTurn effectiveVoltage fun before id packet =>
    Deliverable effectiveVoltage before id packet (before.packetPath id packet)

theorem taken_iff (effectiveVoltage : Nat → Nat → Option Nat) (power : PowerGraph) :
    (∀ id, (power.nodeOf id).isSome → ((power.moved effectiveVoltage).loads id).packetsIn = []) ↔
      ∀ id, (power.nodeOf id).isSome → (power.loads id).packetsIn ≠ [] →
        id ∈ power.wired.graph.cableNetworks.flatten := by
  have visited := moved_visited effectiveVoltage power
  constructor
  · intro taken id present some
    by_contra absent
    have empty := taken id present
    rw [visited.waiting, if_neg fun both => absent both.1] at empty
    exact some empty
  · intro listed id present
    rw [visited.waiting]
    by_cases mem : id ∈ power.wired.graph.cableNetworks.flatten
    · exact if_pos ⟨mem, present⟩
    · rw [if_neg fun both => mem both.1]
      by_contra some
      exact mem (listed id present some)

theorem eachTurn_congr (effectiveVoltage : Nat → Nat → Option Nat) (power : PowerGraph)
    {first second : PowerGraph → Nat → EnergyPacket → Prop}
    (agree : ∀ before id packet, (before.nodeOf id).isSome →
      (first before id packet ↔ second before id packet)) :
    power.EachTurn effectiveVoltage first ↔ power.EachTurn effectiveVoltage second := by
  apply @Machine.along_congr _ _ _ (cableTurns effectiveVoltage) (fun _ => True) _ _
    (fun _ _ _ => trivial) _ _ trivial
  intro current id _
  apply imp_congr_right
  intro present
  have stays : ∀ before packet, (before.nodeOf id).isSome →
      (((packetTurns effectiveVoltage id).step before packet).1.nodeOf id).isSome := by
    intro before packet here
    have same := (before.routePacket_moves effectiveVoltage id packet).wired
    rw [nodeOf, ← same] at here
    exact here
  have taken : ((current.takePackets id).nodeOf id).isSome := present
  exact (packetTurns effectiveVoltage id).along_congr stays
    (fun before packet here => agree before id packet here) taken _

theorem deliversEach_iff (effectiveVoltage : Nat → Nat → Option Nat) (power : PowerGraph) :
    power.DeliversEach effectiveVoltage ↔ power.AllDeliverable effectiveVoltage := by
  have each := eachTurn_congr effectiveVoltage power fun before id packet present =>
    deliversOnce_iff effectiveVoltage present packet
  have taken := taken_iff effectiveVoltage power
  constructor
  · intro delivers
    exact ⟨taken.mp delivers.taken, each.mp delivers.each⟩
  · intro deliverable
    exact ⟨taken.mpr deliverable.listed, (moved_visited effectiveVoltage power).leaving,
      each.mpr deliverable.each⟩

def subtractLoss (lossPerBlock voltage : Nat) : Option Nat :=
  if voltage ≤ lossPerBlock then none else some (voltage - lossPerBlock)

def threeCables : PowerGraph :=
  let cable : CableDef := ⟨62464, 1, "cable_tin", 1, 0x20, 0x20⟩
  let cables := (((({} : WiredGraph).addCableNode 1 cable ⟨1, 64, 0⟩ 0).addCableNode 2 cable
    ⟨2, 64, 0⟩ 0).addCableNode 3 cable ⟨3, 64, 0⟩ 0).registerMachine 7 ⟨4, 64, 0⟩ 0
  let power : PowerGraph := { wired := { cables with graph := cables.graph.rebuildGraph } }
  power.injectPacket ⟨32, 1, 0, 7, 0⟩ 1

theorem DeliversOnce.length_le
    (once : DeliversOnce effectiveVoltage power start packet path deliveries) :
    deliveries.length ≤ 1 := by
  cases path with
  | nil =>
    rw [(once.unroutable rfl).2]
    exact Nat.zero_le 1
  | cons first rest =>
    have carried := once.carried first rest rfl
    cases arrives : carry effectiveVoltage power packet first rest with
    | ok delivery =>
      rw [arrives] at carried
      rw [carried.1]
      exact le_rfl
    | error obstacle =>
      rw [arrives] at carried
      rw [carried.1]
      exact Nat.zero_le 1

theorem threeCables_duplicate : ¬threeCables.DeliversEach subtractLoss := by
  intro delivers
  have networks : threeCables.wired.graph.cableNetworks.flatten = [3, 2, 1] := by
    decide +kernel
  have each := delivers.each
  rw [EachTurn, networks] at each
  obtain ⟨-, -, third, -⟩ := each
  have turns := third (by decide +kernel)
  have packets : (((cableTurns subtractLoss).step ((cableTurns subtractLoss).step
      threeCables.startTick 3).1 2).1.loads 1).packetsIn = [⟨32, 1, 0, 7, 0⟩] := by
    decide +kernel
  rw [packets] at turns
  exact absurd turns.1.length_le (by decide +kernel)

end PowerGraph

end GtnhPlatform.PipeNetwork
