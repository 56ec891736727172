import GtnhPlatform.Data.Machine
import GtnhPlatform.Data.Registrations
import GtnhPlatform.Data.Table
import GtnhPlatform.Router.Frame

namespace GtnhPlatform.Router

open Bytes Registrations List

abbrev Client := Nat

abbrev Name := List UInt8

structure ServiceInfo where
  name : Name
  topics : List Name
  deriving DecidableEq

/-- `lastResponse` is `none` for the zero time. -/
structure HealthStatus where
  transportAlive : Bool := false
  probeState : UInt8 := 0
  lastResponse : Option Nat := none

structure RouterState where
  subs : Table Name (List Client) := ∅
  services : Table Name ServiceInfo := ∅
  connServices : Table Client Name := ∅
  health : Table Name HealthStatus := ∅

namespace RouterState

variable (router : RouterState)

def subscribe (pattern : Name) (cl : Client) : RouterState :=
  let known := (router.subs.lookup pattern).getD []
  { router with
    subs := AList.insert pattern (if cl ∈ known then known else known ++ [cl]) router.subs }

def unsubscribe (pattern : Name) (cl : Client) : RouterState :=
  match router.subs.lookup pattern with
  | none => router
  | some subs =>
    let remaining := subs.filter (· ≠ cl)
    { router with
      subs :=
        if remaining = [] then router.subs.erase pattern
        else AList.insert pattern remaining router.subs }

def unsubscribeAll (cl : Client) : RouterState :=
  let silent :=
    { router with
      subs := (router.subs.mapValues fun _ subs => subs.filter (· ≠ cl)).filter
        fun _ subs => subs ≠ [] }
  match router.connServices.lookup cl with
  | none => silent
  | some name =>
    { silent with
      services := silent.services.erase name
      connServices := silent.connServices.erase cl
      health := silent.health.erase name }

def registerService (name : Name) (topics : List Name) (cl : Client) : RouterState :=
  let services :=
    match router.connServices.lookup cl with
    | none => router.services
    | some prevName => router.services.erase prevName
  let registered :=
    { router with
      services := AList.insert name ⟨name, topics⟩ services
      connServices := AList.insert cl name router.connServices
      health := AList.insert name { transportAlive := true } router.health }
  topics.foldl (fun router topic => router.subscribe topic cl) registered

def idleClients (idle : Client → Bool) : List Client :=
  router.subs.values.flatten.dedup.filter fun cl =>
    (router.connServices.lookup cl).isNone && idle cl

def cleanupOnce (idle : Client → Bool) : RouterState :=
  (router.idleClients idle).foldl unsubscribeAll router

end RouterState

def readString (payload : List UInt8) (offset : Nat) : Option (Name × Nat) :=
  if payload.length < offset + 2 then none
  else
    let strLen := bigEndian ((payload.drop offset).take 2)
    if payload.length < offset + 2 + strLen then none
    else some ((payload.drop (offset + 2)).take strLen, offset + 2 + strLen)

-- A topic that cannot be read is skipped, and the next one is read from the
-- same offset.
def readTopics (payload : List UInt8) : Nat → Nat → List Name
  | 0, _ => []
  | remaining + 1, offset =>
    match readString payload offset with
    | none => readTopics payload remaining offset
    | some (topic, next) => topic :: readTopics payload remaining next

def readRegister (payload : List UInt8) : Option (Name × List Name) :=
  match readString payload 0 with
  | none => none
  | some (name, offset) =>
    if payload.length < offset + 2 then none
    else
      let nTopics := bigEndian ((payload.drop offset).take 2)
      some (name, readTopics payload nTopics (offset + 2))

def registrationOf (frame : Content) : Option (Name × List Name) :=
  if frame.1 = msgRegister then readRegister frame.2 else none

/-- The switch of `handleConn`. Publishing and the health frames leave these
tables alone. -/
def handleFrame (router : RouterState) (cl : Client) (frame : Content) : RouterState :=
  if frame.1 = msgSubscribe then
    match readString frame.2 0 with
    | none => router
    | some (topic, _) => router.subscribe topic cl
  else if frame.1 = msgUnsubscribe then
    match readString frame.2 0 with
    | none => router
    | some (topic, _) => router.unsubscribe topic cl
  else
    match registrationOf frame with
    | none => router
    | some (name, topics) => router.registerService name topics cl

inductive RouterInput where
  | connect (cl : Client)
  | frame (cl : Client) (frame : Content)
  | disconnect (cl : Client)
  | idleCleanup (idle : Client → Bool)

structure RouterProcess where
  router : RouterState := {}
  handlers : List Client := []

namespace RouterProcess

/-- A handler ends with the clean-up it deferred. -/
def handle (process : RouterProcess) : RouterInput → RouterProcess
  | .connect cl =>
    if cl ∈ process.handlers then process
    else { process with handlers := cl :: process.handlers }
  | .frame cl frame =>
    if cl ∈ process.handlers then { process with router := handleFrame process.router cl frame }
    else process
  | .disconnect cl =>
    if cl ∈ process.handlers then
      { router := process.router.unsubscribeAll cl
        handlers := process.handlers.filter (· ≠ cl) }
    else process
  | .idleCleanup idle => { process with router := process.router.cleanupOnce idle }

def machine : Machine RouterProcess RouterInput Unit := ⟨fun process input =>
  (process.handle input, [])⟩

end RouterProcess

structure ServiceRegistry where
  connected : List Client := []
  registrations : Registrations Client Name ServiceInfo := .empty

namespace ServiceRegistry

def observe (registry : ServiceRegistry) : RouterInput → ServiceRegistry
  | .connect cl =>
    if cl ∈ registry.connected then registry
    else { registry with connected := cl :: registry.connected }
  | .frame cl frame =>
    if cl ∈ registry.connected then
      match registrationOf frame with
      | none => registry
      | some (name, topics) =>
        { registry with
          registrations := registry.registrations.enter cl name ⟨name, topics⟩ }
    else registry
  | .disconnect cl =>
    if cl ∈ registry.connected then
      { connected := registry.connected.filter (· ≠ cl)
        registrations := registry.registrations.leave cl }
    else registry
  | .idleCleanup _ => registry

def machine : Machine ServiceRegistry RouterInput Unit := ⟨fun registry input =>
  (registry.observe input, [])⟩

def Alone (registry : ServiceRegistry) (cl : Client) (name : Name) : Prop :=
  ∀ other ≠ cl, registry.registrations.nameOf other ≠ some name

def EndsAlone (registry : ServiceRegistry) : RouterInput → Prop
  | .frame cl frame =>
    cl ∈ registry.connected → ∀ name topics, registrationOf frame = some (name, topics) →
      ∀ previous ≠ name, registry.registrations.nameOf cl = some previous →
        registry.Alone cl previous
  | .disconnect cl =>
    cl ∈ registry.connected → ∀ name, registry.registrations.nameOf cl = some name →
      registry.Alone cl name
  | _ => True

end ServiceRegistry

/-- `services` holds what the latest connected registration under each name
carries, and nothing else. -/
def Coherent (router : RouterState) (registry : ServiceRegistry) : Prop :=
  ∀ name, router.services.lookup name = registry.registrations.lookup name

namespace RouterState

structure SameServices (before after : RouterState) : Prop where
  services : after.services = before.services
  connServices : after.connServices = before.connServices

theorem SameServices.trans (before : SameServices first second)
    (after : SameServices second third) : SameServices first third :=
  ⟨after.services.trans before.services, after.connServices.trans before.connServices⟩

variable (router : RouterState)

theorem subscribe_same (pattern : Name) (cl : Client) :
    SameServices router (router.subscribe pattern cl) := ⟨rfl, rfl⟩

theorem unsubscribe_same (pattern : Name) (cl : Client) :
    SameServices router (router.unsubscribe pattern cl) := by
  unfold unsubscribe
  split <;> exact ⟨rfl, rfl⟩

theorem unsubscribeAll_same {router : RouterState}
    (unregistered : router.connServices.lookup cl = none) :
    SameServices router (router.unsubscribeAll cl) := by
  simp only [unsubscribeAll, unregistered]
  exact ⟨rfl, rfl⟩

theorem subscribeEach_same (topics : List Name) (cl : Client) :
    SameServices router (topics.foldl (fun router topic => router.subscribe topic cl) router) := by
  induction topics generalizing router with
  | nil => exact ⟨rfl, rfl⟩
  | cons topic rest ih => exact (subscribe_same router topic cl).trans (ih _)

theorem unsubscribeEach_same {router : RouterState} {clients : List Client}
    (unregistered : ∀ cl ∈ clients, router.connServices.lookup cl = none) :
    SameServices router (clients.foldl unsubscribeAll router) := by
  induction clients generalizing router with
  | nil => exact ⟨rfl, rfl⟩
  | cons cl rest ih =>
    have removed := unsubscribeAll_same (unregistered cl mem_cons_self)
    refine removed.trans (ih ?_)
    intro other later
    rw [removed.connServices]
    exact unregistered other (mem_cons_of_mem _ later)

theorem cleanupOnce_same (idle : Client → Bool) :
    SameServices router (router.cleanupOnce idle) := by
  apply unsubscribeEach_same
  intro cl mem
  have chosen := (mem_filter.mp mem).2
  simp only [Bool.and_eq_true, Option.isNone_iff_eq_none] at chosen
  exact chosen.1

theorem unsubscribeAll_services {router : RouterState}
    (registered : router.connServices.lookup cl = some name) (other : Name) :
    (router.unsubscribeAll cl).services.lookup other =
      if other = name then none else router.services.lookup other := by
  simp only [unsubscribeAll, registered]
  exact Table.lookup_erase_eq _ _ _

theorem unsubscribeAll_connServices (cl other : Client) :
    (router.unsubscribeAll cl).connServices.lookup other =
      if other = cl then none else router.connServices.lookup other := by
  cases registered : router.connServices.lookup cl with
  | none =>
    rw [(unsubscribeAll_same registered).connServices]
    split
    · next same => rw [same, registered]
    · rfl
  | some name =>
    simp only [unsubscribeAll, registered]
    exact Table.lookup_erase_eq _ _ _

theorem registerService_services (name : Name) (topics : List Name) (cl : Client) (other : Name) :
    (router.registerService name topics cl).services.lookup other =
      if other = name then some ⟨name, topics⟩
      else if router.connServices.lookup cl = some other then none
      else router.services.lookup other := by
  rw [registerService, (subscribeEach_same _ _ _).services, Table.lookup_insert_eq]
  congr 1
  cases router.connServices.lookup cl with
  | none => simp
  | some prevName =>
    simp only [Table.lookup_erase_eq, Option.some.injEq, eq_comm]

theorem registerService_connServices (name : Name) (topics : List Name) (cl other : Client) :
    (router.registerService name topics cl).connServices.lookup other =
      if other = cl then some name else router.connServices.lookup other := by
  rw [registerService, (subscribeEach_same _ _ _).connServices]
  exact Table.lookup_insert_eq _ _ _ _

end RouterState

structure Tracks (process : RouterProcess) (registry : ServiceRegistry) : Prop where
  handlers : process.handlers = registry.connected
  names : ∀ cl, process.router.connServices.lookup cl = registry.registrations.nameOf cl

variable {process : RouterProcess} {registry : ServiceRegistry} {frame : Content}

theorem handleFrame_same (router : RouterState) (cl : Client) (none : registrationOf frame = none) :
    RouterState.SameServices router (handleFrame router cl frame) := by
  unfold handleFrame
  split
  · split
    · exact ⟨rfl, rfl⟩
    · exact RouterState.subscribe_same _ _ _
  split
  · split
    · exact ⟨rfl, rfl⟩
    · exact RouterState.unsubscribe_same _ _ _
  · rw [none]
    exact ⟨rfl, rfl⟩

theorem handleFrame_registers (router : RouterState) (cl : Client)
    (asks : registrationOf frame = some (name, topics)) :
    handleFrame router cl frame = router.registerService name topics cl := by
  have registers : frame.1 = msgRegister := by
    by_contra other
    rw [registrationOf, if_neg other] at asks
    cases asks
  rw [handleFrame, registers, if_neg (by decide), if_neg (by decide), asks]

variable (tracks : Tracks process registry)

include tracks

theorem Tracks.handle (input : RouterInput) :
    Tracks (process.handle input) (registry.observe input) := by
  cases input with
  | connect cl =>
    unfold RouterProcess.handle ServiceRegistry.observe
    dsimp only
    rw [tracks.handlers]
    split
    · exact tracks
    · exact ⟨rfl, tracks.names⟩
  | frame cl frame =>
    unfold RouterProcess.handle ServiceRegistry.observe
    dsimp only
    rw [tracks.handlers]
    split
    · cases asks : registrationOf frame with
      | none =>
        refine ⟨rfl, ?_⟩
        intro other
        rw [(handleFrame_same process.router cl asks).connServices]
        exact tracks.names other
      | some asked =>
        refine ⟨rfl, ?_⟩
        intro other
        rw [handleFrame_registers _ _ asks, RouterState.registerService_connServices, tracks.names]
        exact (nameOf_enter _ _ _ _ _).symm
    · exact tracks
  | disconnect cl =>
    unfold RouterProcess.handle ServiceRegistry.observe
    dsimp only
    rw [tracks.handlers]
    split
    · refine ⟨rfl, ?_⟩
      intro other
      rw [RouterState.unsubscribeAll_connServices, tracks.names]
      exact (nameOf_leave _ _ _).symm
    · exact tracks
  | idleCleanup idle =>
    refine ⟨tracks.handlers, ?_⟩
    intro other
    change (process.router.cleanupOnce idle).connServices.lookup other = _
    rw [(RouterState.cleanupOnce_same _ _).connServices]
    exact tracks.names other

variable (coherent : Coherent process.router registry)

include coherent

theorem coherent_unsubscribeAll_iff (cl : Client) :
    (∀ name, (process.router.unsubscribeAll cl).services.lookup name =
        (registry.registrations.leave cl).lookup name) ↔
      ∀ name, registry.registrations.nameOf cl = some name → registry.Alone cl name := by
  cases held : registry.registrations.nameOf cl with
  | none =>
    have unregistered : process.router.connServices.lookup cl = none := by
      rw [tracks.names, held]
    refine iff_of_true ?_ ?_
    · intro name
      rw [(RouterState.unsubscribeAll_same unregistered).services, coherent, lookup_leave_of_ne]
      rw [held]
      exact (Option.some_ne_none name).symm
    · intro name named
      cases named
  | some name =>
    have registered : process.router.connServices.lookup cl = some name := by
      rw [tracks.names, held]
    constructor
    · intro after other named
      cases named
      have here := after name
      rw [RouterState.unsubscribeAll_services registered, if_pos rfl] at here
      exact (lookup_leave_eq_none_iff _ _ _).mp here.symm
    · intro alone other
      rw [RouterState.unsubscribeAll_services registered]
      by_cases same : other = name
      · rw [if_pos same, same]
        exact ((lookup_leave_eq_none_iff _ _ _).mpr (alone name rfl)).symm
      · rw [if_neg same, coherent, lookup_leave_of_ne]
        rw [held]
        exact fun named => same (Option.some.inj named).symm

theorem coherent_registerService_iff (name : Name) (topics : List Name) (cl : Client) :
    (∀ other, (process.router.registerService name topics cl).services.lookup other =
        (registry.registrations.enter cl name ⟨name, topics⟩).lookup other) ↔
      ∀ previous ≠ name, registry.registrations.nameOf cl = some previous →
        registry.Alone cl previous := by
  simp only [RouterState.registerService_services, lookup_enter, tracks.names]
  constructor
  · intro after previous changed held
    have there := after previous
    rw [if_neg changed, if_neg changed, if_pos held] at there
    exact (lookup_leave_eq_none_iff _ _ _).mp there.symm
  · intro alone other
    by_cases same : other = name
    · rw [if_pos same, if_pos same]
    rw [if_neg same, if_neg same]
    by_cases held : registry.registrations.nameOf cl = some other
    · rw [if_pos held]
      exact ((lookup_leave_eq_none_iff _ _ _).mpr (alone other same held)).symm
    · rw [if_neg held, coherent, lookup_leave_of_ne _ held]

theorem coherent_handle_iff (input : RouterInput) :
    Coherent (process.handle input).router (registry.observe input) ↔ registry.EndsAlone input := by
  cases input with
  | connect cl =>
    refine iff_of_true ?_ trivial
    unfold RouterProcess.handle ServiceRegistry.observe
    dsimp only
    rw [tracks.handlers]
    split <;> exact coherent
  | frame cl frame =>
    unfold RouterProcess.handle ServiceRegistry.observe ServiceRegistry.EndsAlone
    rw [tracks.handlers]
    by_cases connected : cl ∈ registry.connected
    · simp only [connected, if_true, forall_const]
      cases asks : registrationOf frame with
      | none =>
        refine iff_of_true ?_ ?_
        · intro name
          rw [(handleFrame_same process.router cl asks).services]
          exact coherent name
        · intro name topics asked
          cases asked
      | some asked =>
        rw [handleFrame_registers _ _ asks]
        refine (coherent_registerService_iff tracks coherent asked.1 asked.2 cl).trans ?_
        constructor
        · intro alone name topics same
          cases same
          exact alone
        · intro alone
          exact alone asked.1 asked.2 rfl
    · simp only [if_neg connected]
      exact iff_of_true coherent fun present => absurd present connected
  | disconnect cl =>
    unfold RouterProcess.handle ServiceRegistry.observe ServiceRegistry.EndsAlone
    rw [tracks.handlers]
    by_cases connected : cl ∈ registry.connected
    · simp only [connected, if_true, forall_const]
      exact coherent_unsubscribeAll_iff tracks coherent cl
    · simp only [if_neg connected]
      exact iff_of_true coherent fun present => absurd present connected
  | idleCleanup idle =>
    refine iff_of_true ?_ trivial
    intro name
    change (process.router.cleanupOnce idle).services.lookup name = _
    rw [(RouterState.cleanupOnce_same _ _).services]
    exact coherent name

omit coherent

omit tracks

theorem tracks_run (inputs : List RouterInput) :
    Tracks (RouterProcess.machine.final {} inputs) (ServiceRegistry.machine.final {} inputs) := by
  have start : Tracks {} {} := ⟨rfl, fun _ => rfl⟩
  induction inputs using reverseRecOn with
  | nil => exact start
  | append_singleton inputs input ih =>
    rw [Machine.final_concat, Machine.final_concat]
    exact ih.handle input

structure Sound (state : RouterProcess × ServiceRegistry) : Prop where
  tracks : Tracks state.1 state.2
  coherent : Coherent state.1.router state.2

theorem sound_step_iff (state : RouterProcess × ServiceRegistry) (input : RouterInput)
    (sound : Sound state) :
    Sound ((RouterProcess.machine.both ServiceRegistry.machine).step state input).1 ↔
      state.2.EndsAlone input := by
  rw [← coherent_handle_iff sound.tracks sound.coherent input]
  constructor
  · exact Sound.coherent
  · intro coherent
    exact ⟨sound.tracks.handle input, coherent⟩

theorem coherent_iff_endsAlone (inputs : List RouterInput) :
    (∀ before after, inputs = before ++ after →
        Coherent (RouterProcess.machine.final {} before).router
          (ServiceRegistry.machine.final {} before)) ↔
      ServiceRegistry.machine.Along ServiceRegistry.EndsAlone {} inputs := by
  have start : Sound ({}, {}) := ⟨⟨rfl, fun _ => rfl⟩, fun _ => rfl⟩
  have always := Machine.always_iff _ sound_step_iff start inputs
  rw [Machine.along_both RouterProcess.machine ServiceRegistry.machine] at always
  refine Iff.trans ?_ always
  constructor
  · intro coherent before after split
    rw [Machine.final_both]
    exact ⟨tracks_run before, coherent before after split⟩
  intro sound before after split
  have now := sound before after split
  rw [Machine.final_both] at now
  exact now.coherent

def registerFrame (name : Name) : Content :=
  (msgRegister, putBigEndian 2 name.length ++ name ++ [0, 0])

theorem cleanup_deletes_new_registration : ¬ ∀ before after,
      [.connect 1, .frame 1 (registerFrame [120]), .connect 2, .frame 2 (registerFrame [120]),
        .disconnect 1] = before ++ after → Coherent (RouterProcess.machine.final {} before).router
          (ServiceRegistry.machine.final {} before) := by
  intro coherent
  have deleted := coherent _ [] (append_nil _).symm [120]
  revert deleted
  decide +kernel

end GtnhPlatform.Router
