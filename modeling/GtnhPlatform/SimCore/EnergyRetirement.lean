import GtnhPlatform.SimCore.EnergyRequests

namespace GtnhPlatform.SimCore.EnergyRequests

open GtnhPlatform.Sim List

namespace EnergyServer

variable (server : EnergyServer)

def entries : Requester → Table Nat Int
  | .battery => server.batteryRequests
  | .lcr => server.lcrConsumes
  | .ebf => server.ebfConsumes
  | .machine => server.machineConsumes

def Holds (requester : Requester) (nodeId : Nat) : Prop :=
  (server.entries requester).lookup nodeId ≠ none

/-- No system has a request for the node under way, so that each can send one. -/
def Retired (nodeId : Nat) : Prop :=
  ∀ requester, (server.entries requester).lookup nodeId = none

/-- At most one system has a request for the node under way. The battery
buffers let go of theirs for a positive amount only, and the machines of that
of node 0 only for a positive amount and where their table begins with it. -/
structure Settles (server : EnergyServer) (response : EnergyConsumeResp) (first : Nat) :
    Prop where
  only : ∀ requester other, server.Holds requester response.nodeId →
    server.Holds other response.nodeId → requester = other
  battery : server.Holds .battery response.nodeId → 0 < response.consumed
  machine : server.Holds .machine response.nodeId → response.nodeId = 0 →
    0 < response.consumed ∧ beginKey server.machineConsumes first = some 0

def takenLater (response : EnergyConsumeResp) : Requester :=
  if server.lcrConsumes.lookup response.nodeId ≠ none then .lcr
  else if server.ebfConsumes.lookup response.nodeId ≠ none then .ebf
  else .machine

def takenBy (response : EnergyConsumeResp) : Requester :=
  if 0 < response.consumed ∧ server.batteryRequests.lookup response.nodeId ≠ none then .battery
  else server.takenLater response

def erasedKey (response : EnergyConsumeResp) (first : Nat) : Requester → Option Nat
  | .machine =>
    if response.nodeId ≠ 0 then some response.nodeId
    else if response.consumed ≤ 0 then none
    else beginKey server.machineConsumes first
  | _ => some response.nodeId

def eraseOpt (table : Table Nat Int) : Option Nat → Table Nat Int
  | none => table
  | some key => table.erase key

variable (server : EnergyServer)

@[simp] theorem entries_creditEntity (response : EnergyConsumeResp) :
    (server.creditEntity response).entries = server.entries := by
  rw [creditEntity]
  split
  · rfl
  · split <;> rfl

@[simp] theorem entries_creditMachine (entity : Nat) (consumed : Int) :
    (server.creditMachine entity consumed).entries = server.entries := by
  rw [creditMachine]
  split
  · rfl
  · split <;> rfl

theorem eraseMachineConsume_machine (nodeId : Nat) :
    (server.eraseMachineConsume nodeId).entries .machine =
      (server.entries .machine).erase nodeId := rfl

theorem eraseMachineConsume_other (nodeId : Nat) (notMachine : other ≠ .machine) :
    (server.eraseMachineConsume nodeId).entries other = server.entries other := by
  cases other with
  | machine => exact absurd rfl notMachine
  | battery => rfl
  | lcr => rfl
  | ebf => rfl

theorem entries_take {server after : EnergyServer}
    (takes : after.entries taker = eraseOpt (server.entries taker) key)
    (others : ∀ other, other ≠ taker → after.entries other = server.entries other)
    (requester : Requester) : after.entries requester =
      if requester = taker then eraseOpt (server.entries requester) key
      else server.entries requester := by
  by_cases same : requester = taker
  · rw [if_pos same, same]
    exact takes
  · rw [if_neg same]
    exact others requester same

theorem entries_machineResponse (response : EnergyConsumeResp)
    (first : Nat) (requester : Requester) :
    (server.machineResponse response first).entries requester = if requester = .machine then
        eraseOpt (server.entries requester) (server.erasedKey response first .machine)
      else server.entries requester := by
  apply entries_take
  · rw [machineResponse, erasedKey]
    split
    · split <;> rfl
    split
    · rw [eraseMachineConsume_machine, entries_creditMachine]
      rfl
    cases beginKey server.machineConsumes first with
    | none => rfl
    | some oldest =>
      rw [eraseMachineConsume_machine, entries_creditMachine]
      rfl
  · intro other notMachine
    rw [machineResponse]
    split
    · split
      · exact eraseMachineConsume_other server _ notMachine
      · rfl
    split
    · rw [eraseMachineConsume_other _ _ notMachine, entries_creditMachine]
    cases beginKey server.machineConsumes first with
    | none => rfl
    | some oldest =>
      rw [eraseMachineConsume_other _ _ notMachine, entries_creditMachine]

def passOn (response : EnergyConsumeResp) (first : Nat) : EnergyServer :=
  match server.lcrResponse response with
  | some taken => taken
  | none =>
    match server.ebfResponse response with
    | some taken => taken
    | none => server.machineResponse response first

variable (response : EnergyConsumeResp)

theorem entries_passOn (first : Nat) (requester : Requester) :
    (server.passOn response first).entries requester =
      if requester = server.takenLater response then eraseOpt (server.entries requester)
          (server.erasedKey response first (server.takenLater response))
      else server.entries requester := by
  rw [passOn, lcrResponse, ebfResponse, takenLater]
  cases server.lcrConsumes.lookup response.nodeId with
  | some amount =>
    apply entries_take
    · exact congrFun (entries_creditEntity _ response) .lcr
    intro other notLcr
    refine (congrFun (entries_creditEntity _ response) other).trans ?_
    cases other with
    | lcr => exact absurd rfl notLcr
    | battery => rfl
    | ebf => rfl
    | machine => rfl
  | none =>
    cases server.ebfConsumes.lookup response.nodeId with
    | some amount =>
      apply entries_take
      · exact congrFun (entries_creditEntity _ response) .ebf
      intro other notEbf
      refine (congrFun (entries_creditEntity _ response) other).trans ?_
      cases other with
      | ebf => exact absurd rfl notEbf
      | battery => rfl
      | lcr => rfl
      | machine => rfl
    | none => exact entries_machineResponse server response first requester

theorem entries_onConsumeResponse (first : Nat)
    (requester : Requester) : (server.onConsumeResponse response first).entries requester =
      if requester = server.takenBy response then eraseOpt (server.entries requester)
          (server.erasedKey response first (server.takenBy response))
      else server.entries requester := by
  by_cases kept : 0 < response.consumed ∧ server.batteryRequests.lookup response.nodeId ≠ none
  · have taker : server.takenBy response = .battery := if_pos kept
    obtain ⟨amount, held⟩ := Option.ne_none_iff_exists'.mp kept.2
    rw [taker]
    rw [onConsumeResponse, batteryResponse, if_neg (by omega), held]
    apply entries_take
    · rfl
    intro other notBattery
    cases other with
    | battery => exact absurd rfl notBattery
    | lcr => rfl
    | ebf => rfl
    | machine => rfl
  · have taker : server.takenBy response = server.takenLater response := if_neg kept
    have passed : server.batteryResponse response = none := by
      rw [batteryResponse]
      by_cases positive : response.consumed ≤ 0
      · exact if_pos positive
      rw [if_neg positive]
      cases held : server.batteryRequests.lookup response.nodeId with
      | none => rfl
      | some amount => exact absurd ⟨by omega, by rw [held]; exact nofun⟩ kept
    rw [onConsumeResponse, passed, taker]
    exact entries_passOn server response first requester

theorem lookup_eraseOpt (table : Table Nat Int) (key : Option Nat) (nodeId : Nat) :
    (eraseOpt table key).lookup nodeId =
      if key = some nodeId then none else table.lookup nodeId := by
  cases key with
  | none => rfl
  | some erased =>
    rw [eraseOpt, Table.lookup_erase_eq]
    by_cases same : nodeId = erased
    · rw [if_pos same, if_pos (congrArg some same.symm)]
    · rw [if_neg same, if_neg fun equal => same (Option.some.inj equal).symm]

variable {response : EnergyConsumeResp}

theorem takenBy_of_holds {server : EnergyServer} (holds : server.Holds requester response.nodeId)
    (only : ∀ other, server.Holds other response.nodeId → other = requester)
    (positive : requester = .battery → 0 < response.consumed) :
    server.takenBy response = requester := by
  rw [takenBy]
  cases requester with
  | battery => exact if_pos ⟨positive rfl, holds⟩
  | lcr =>
    rw [if_neg fun kept => nomatch only .battery kept.2]
    exact if_pos holds
  | ebf =>
    rw [if_neg fun kept => nomatch only .battery kept.2]
    exact (if_neg fun kept => nomatch only .lcr kept).trans (if_pos holds)
  | machine =>
    rw [if_neg fun kept => nomatch only .battery kept.2]
    exact (if_neg fun kept => nomatch only .lcr kept).trans
      (if_neg fun kept => nomatch only .ebf kept)

theorem holds_of_takenBy {server : EnergyServer} (isBattery : server.takenBy response = .battery) :
    0 < response.consumed := by
  rw [takenBy, takenLater] at isBattery
  by_cases kept : 0 < response.consumed ∧ server.batteryRequests.lookup response.nodeId ≠ none
  · exact kept.1
  rw [if_neg kept] at isBattery
  split at isBattery
  · exact nomatch isBattery
  · split at isBattery <;> exact nomatch isBattery

theorem erasedKey_machine (response : EnergyConsumeResp) (first : Nat) :
    server.erasedKey response first .machine = some response.nodeId ↔ (response.nodeId = 0 →
        0 < response.consumed ∧ beginKey server.machineConsumes first = some 0) := by
  rw [erasedKey]
  by_cases node : response.nodeId ≠ 0
  · rw [if_pos node]
    exact iff_of_true rfl fun zero => absurd zero node
  rw [if_neg node]
  have zero : response.nodeId = 0 := not_not.mp node
  by_cases positive : response.consumed ≤ 0
  · rw [if_pos positive]
    apply iff_of_false nofun
    intro needed
    have := (needed zero).1
    omega
  · rw [if_neg positive, zero]
    constructor
    · intro begins _
      exact ⟨by omega, begins⟩
    · intro needed
      exact (needed rfl).2

theorem retired_iff_settles (response : EnergyConsumeResp) (first : Nat) :
    (server.onConsumeResponse response first).Retired response.nodeId ↔
      server.Settles response first := by
  constructor
  · intro retired
    have taker : ∀ requester, server.Holds requester response.nodeId →
        server.takenBy response = requester := by
      intro requester holds
      by_contra other
      have kept := retired requester
      rw [entries_onConsumeResponse, if_neg (Ne.symm other)] at kept
      exact holds kept
    refine ⟨?_, ?_, ?_⟩
    · intro requester other holds otherHolds
      exact (taker requester holds).symm.trans (taker other otherHolds)
    · intro holds
      exact holds_of_takenBy (taker .battery holds)
    intro holds
    rw [← erasedKey_machine]
    by_contra spared
    have kept := retired .machine
    rw [entries_onConsumeResponse, taker .machine holds, if_pos rfl, lookup_eraseOpt,
      if_neg spared] at kept
    exact holds kept
  · intro settles requester
    by_cases holds : server.Holds requester response.nodeId
    · have taker := takenBy_of_holds holds
        (fun other otherHolds => settles.only other requester otherHolds holds)
        (fun isBattery => settles.battery (isBattery ▸ holds))
      rw [entries_onConsumeResponse, taker, if_pos rfl, lookup_eraseOpt]
      apply if_pos
      cases requester with
      | machine => exact (erasedKey_machine server response first).mpr (settles.machine holds)
      | battery => rfl
      | lcr => rfl
      | ebf => rfl
    · have free : (server.entries requester).lookup response.nodeId = none := not_not.mp holds
      rw [entries_onConsumeResponse]
      split
      · rw [lookup_eraseOpt, free]
        exact ite_self none
      · exact free

def Expects (nodeId : Nat) : Prop :=
  nodeId ∈ server.requests.map EnergyConsumeReq.nodeId ∨
    nodeId ∈ server.responses.map EnergyConsumeResp.nodeId

def Awaited : Prop :=
  ∀ nodeId, ¬server.Retired nodeId → server.Expects nodeId

theorem Awaited.step {server after : EnergyServer} (awaited : server.Awaited)
    (entries : ∀ nodeId, ¬after.Retired nodeId → ¬server.Retired nodeId ∨ after.Expects nodeId)
    (messages : ∀ nodeId, ¬after.Retired nodeId → server.Expects nodeId → after.Expects nodeId) :
    after.Awaited := by
  intro nodeId busy
  rcases entries nodeId busy with before | expects
  · exact messages nodeId busy (awaited nodeId before)
  · exact expects

theorem expects_sent (nodeId : Nat) (amount : Int) :
    (server.sendConsumeRequest nodeId amount).Expects nodeId := by
  left
  exact mem_map.mpr ⟨_, mem_append_right _ (mem_singleton_self _), rfl⟩

theorem expects_kept {server : EnergyServer} (nodeId : Nat) (amount : Int)
    (expects : server.Expects other) : (server.sendConsumeRequest nodeId amount).Expects other := by
  rcases expects with request | response
  · left
    rw [sendConsumeRequest, map_append]
    exact mem_append_left _ request
  · exact Or.inr response

theorem awaited_of_sent {server after : EnergyServer} (awaited : server.Awaited)
    (sender : Option Requester) (nodeId : Nat) (amount : Int)
    (messages : after.Expects = (server.sendConsumeRequest nodeId amount).Expects)
    (entries : ∀ requester, after.entries requester =
      if sender = some requester then AList.insert nodeId amount (server.entries requester)
      else server.entries requester) : after.Awaited := by
  apply awaited.step
  · intro other busy
    by_cases same : other = nodeId
    · right
      rw [messages, same]
      exact expects_sent server nodeId amount
    left
    intro retired
    apply busy
    intro requester
    rw [entries]
    split
    · exact (Table.lookup_insert_of_ne _ _ same).trans (retired requester)
    · exact retired requester
  · intro other _ expects
    rw [messages]
    exact expects_kept nodeId amount expects

theorem awaited_tickBattery {server : EnergyServer} (awaited : server.Awaited) (nodeId : Nat) :
    (server.tickBattery nodeId).Awaited := by
  rw [tickBattery]
  cases server.buffers.lookup nodeId with
  | none => exact awaited
  | some found =>
    dsimp only
    split
    · refine awaited_of_sent awaited (some .battery) nodeId _ rfl fun requester => ?_
      cases requester <;> rfl
    · exact awaited

theorem awaited_tickLcr {server : EnergyServer} (awaited : server.Awaited) (nodeId : Nat)
    (perTickCost : Int) : (server.tickLcr nodeId perTickCost).Awaited := by
  rw [tickLcr]
  split
  · refine awaited_of_sent awaited (some .lcr) nodeId perTickCost rfl fun requester => ?_
    cases requester <;> rfl
  · exact awaited

theorem awaited_tickEbf {server : EnergyServer} (awaited : server.Awaited) (nodeId : Nat)
    (perTickCost : Int) : (server.tickEbf nodeId perTickCost).Awaited := by
  rw [tickEbf]
  split
  · refine awaited_of_sent awaited (some .ebf) nodeId perTickCost rfl fun requester => ?_
    cases requester <;> rfl
  · exact awaited

theorem awaited_tickMachine {server : EnergyServer} (awaited : server.Awaited) (nodeId : Nat)
    (needed : Int) : (server.tickMachine nodeId needed).Awaited := by
  rw [tickMachine]
  split
  · refine awaited_of_sent awaited (some .machine) nodeId needed rfl fun requester => ?_
    cases requester <;> rfl
  · exact awaited

theorem awaited_answer {server : EnergyServer} (awaited : server.Awaited) (index : Nat)
    (consumed remaining : Int) : (server.answer index consumed remaining).Awaited := by
  rw [answer]
  cases picked : server.requests[index]? with
  | none => exact awaited
  | some request =>
    apply awaited.step
    · exact fun nodeId busy => Or.inl busy
    intro nodeId _ expects
    rcases expects with sent | answered
    · obtain ⟨asked, mem, rfl⟩ := mem_map.mp sent
      by_cases same : asked = request
      · right
        rw [map_append, same]
        exact mem_append_right _ (mem_singleton_self _)
      left
      apply mem_map_of_mem
      rw [mem_eraseIdx_iff_getElem?]
      obtain ⟨place, found⟩ := mem_iff_getElem?.mp mem
      refine ⟨place, ?_, found⟩
      rintro rfl
      exact same (Option.some.inj (found.symm.trans picked))
    · right
      rw [map_append]
      exact mem_append_left _ answered

theorem retired_onConsumeResponse {server : EnergyServer} (retired : server.Retired nodeId)
    (response : EnergyConsumeResp) (first : Nat) :
    (server.onConsumeResponse response first).Retired nodeId := by
  intro requester
  rw [entries_onConsumeResponse]
  split
  · rw [lookup_eraseOpt, retired requester]
    exact ite_self none
  · exact retired requester

def unqueued (index : Nat) : EnergyServer :=
  { server with responses := server.responses.eraseIdx index }

theorem deliver_eq {server : EnergyServer} (picked : server.responses[index]? = some response)
    (first : Nat) :
    server.deliver index first = (server.unqueued index).onConsumeResponse response first := by
  rw [deliver, picked]
  rfl

theorem messages_creditEntity (response : EnergyConsumeResp) :
    (server.creditEntity response).requests = server.requests ∧
      (server.creditEntity response).responses = server.responses := by
  rw [creditEntity]
  split
  · exact ⟨rfl, rfl⟩
  · split <;> exact ⟨rfl, rfl⟩

theorem messages_creditMachine (entity : Nat) (consumed : Int) :
    (server.creditMachine entity consumed).requests = server.requests ∧
      (server.creditMachine entity consumed).responses = server.responses := by
  rw [creditMachine]
  split
  · exact ⟨rfl, rfl⟩
  · split <;> exact ⟨rfl, rfl⟩

theorem messages_machineResponse (response : EnergyConsumeResp) (first : Nat) :
    (server.machineResponse response first).requests = server.requests ∧
      (server.machineResponse response first).responses = server.responses := by
  rw [machineResponse]
  split
  · split <;> exact ⟨rfl, rfl⟩
  split
  · exact messages_creditMachine server _ _
  · cases beginKey server.machineConsumes first with
    | none => exact ⟨rfl, rfl⟩
    | some oldest => exact messages_creditMachine server _ _

theorem messages_onConsumeResponse (response : EnergyConsumeResp) (first : Nat) :
    (server.onConsumeResponse response first).requests = server.requests ∧
      (server.onConsumeResponse response first).responses = server.responses := by
  rw [onConsumeResponse, batteryResponse, lcrResponse, ebfResponse]
  split
  · next taken kept =>
    split at kept
    · exact absurd kept nofun
    split at kept
    · exact absurd kept nofun
    · cases kept
      exact ⟨rfl, rfl⟩
  · cases server.lcrConsumes.lookup response.nodeId with
    | some amount => exact messages_creditEntity _ response
    | none =>
      cases server.ebfConsumes.lookup response.nodeId with
      | some amount => exact messages_creditEntity _ response
      | none => exact messages_machineResponse server response first

theorem awaited_deliver {server : EnergyServer} (awaited : server.Awaited)
    (retires : ∀ response, server.responses[index]? = some response →
      (server.deliver index first).Retired response.nodeId) :
    (server.deliver index first).Awaited := by
  cases picked : server.responses[index]? with
  | none =>
    rw [deliver, picked]
    exact awaited
  | some response =>
    have retired := retires response picked
    rw [deliver_eq picked] at retired ⊢
    have kept := messages_onConsumeResponse (server.unqueued index) response first
    apply awaited.step
    · intro nodeId busy
      left
      intro before
      have unqueued : (server.unqueued index).Retired nodeId := before
      exact busy (retired_onConsumeResponse unqueued response first)
    · intro nodeId busy expects
      rw [Expects, kept.1, kept.2]
      rcases expects with sent | answered
      · exact Or.inl sent
      right
      obtain ⟨other, mem, rfl⟩ := mem_map.mp answered
      apply mem_map_of_mem
      rw [unqueued, mem_eraseIdx_iff_getElem?]
      obtain ⟨place, found⟩ := mem_iff_getElem?.mp mem
      refine ⟨place, ?_, found⟩
      rintro rfl
      cases picked.symm.trans found
      exact busy retired

def RetiresOn : EnergyInput → Prop
  | .deliver index first => ∀ response, server.responses[index]? = some response →
      (server.deliver index first).Retired response.nodeId
  | _ => True

def SettlesOn : EnergyInput → Prop
  | .deliver index first => ∀ response, server.responses[index]? = some response →
      server.Settles response first
  | _ => True

theorem settles_unqueued (index first : Nat) (response : EnergyConsumeResp) :
    (server.unqueued index).Settles response first ↔ server.Settles response first := by
  constructor
  · intro settles
    exact ⟨settles.only, settles.battery, settles.machine⟩
  · intro settles
    exact ⟨settles.only, settles.battery, settles.machine⟩

theorem retiresOn_iff (input : EnergyInput) : server.RetiresOn input ↔ server.SettlesOn input := by
  cases input with
  | deliver index first =>
    apply forall_congr'
    intro response
    apply imp_congr_right
    intro picked
    rw [deliver_eq picked, retired_iff_settles, settles_unqueued]
  | _ => exact Iff.rfl

theorem awaited_handle {server : EnergyServer} (awaited : server.Awaited) (input : EnergyInput)
    (retires : server.RetiresOn input) : (server.handle input).Awaited := by
  cases input with
  | setBuffer entity buffer => exact awaited
  | setStorage entity storage => exact awaited
  | tickBattery nodeId => exact awaited_tickBattery awaited nodeId
  | tickLcr nodeId perTickCost => exact awaited_tickLcr awaited nodeId perTickCost
  | tickEbf nodeId perTickCost => exact awaited_tickEbf awaited nodeId perTickCost
  | tickMachine nodeId needed => exact awaited_tickMachine awaited nodeId needed
  | ask nodeId amount =>
    exact awaited_of_sent awaited none nodeId amount rfl fun _ => rfl
  | answer index consumed remaining => exact awaited_answer awaited index consumed remaining
  | deliver index first => exact awaited_deliver awaited retires

theorem responsesRetire_iff (inputs : List EnergyInput) :
    (machine.Along RetiresOn {} inputs ↔ machine.Along SettlesOn {} inputs) ∧
      (machine.Along SettlesOn {} inputs → (machine.final {} inputs).Awaited) := by
  have same : machine.Along RetiresOn {} inputs ↔ machine.Along SettlesOn {} inputs := by
    constructor
    · exact Machine.Along.mono machine fun server input => (retiresOn_iff server input).mp
    · exact Machine.Along.mono machine fun server input => (retiresOn_iff server input).mpr
  refine ⟨same, ?_⟩
  intro settles
  apply machine.invariant RetiresOn (fun _ server _ => server.Awaited)
  · intro nodeId busy
    exact absurd (fun requester => by cases requester <;> rfl) busy
  · intro _ server _ input awaited retires
    exact awaited_handle awaited input retires
  · exact same.mpr settles

theorem empty_network_stalls_buffer : ¬machine.Along RetiresOn {}
      [.setBuffer 1 (some ⟨40000, 0, 32⟩), .tickBattery 1, .answer 0 0 0, .deliver 0 0] := by
  intro retires
  have kept := retires.2.2.2.1 ⟨1, 0, 0⟩ rfl .battery
  exact absurd kept (by decide)

end EnergyServer

end GtnhPlatform.SimCore.EnergyRequests
