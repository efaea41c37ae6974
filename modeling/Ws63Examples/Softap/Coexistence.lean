import Mathlib.Data.List.Induction
import Ws63Examples.Lib.Execution
import Ws63Examples.Lib.History

/-! The coexistence servers, which the access point services between its polls. -/

namespace Ws63Examples.Softap

open Execution History

/-- The calls that start a server. -/
inductive CoexCall where
  | startAdvertising
  | setLocalAddress
  | startAnnounce
  deriving DecidableEq, Repr

inductive CoexLine where
  | bleReady
  | bleConnected
  | bleErr (status : UInt32)
  | bleEventDrop
  | sleReady
  | sleConnected
  | sleErr (status : UInt32)
  | sleEventDrop
  deriving DecidableEq, Repr

inductive CoexEffect where
  | write (line : CoexLine)
  | call (call : CoexCall)
  deriving DecidableEq, Repr

/-- The arm of a service loop that an event takes. -/
inductive CoexArm where
  | start
  | ignore
  | write (line : CoexLine)
  | fail (line : CoexLine)
  deriving DecidableEq, Repr

/-- `BleB2Event`, as far as the loop reads it. -/
inductive BleEvent where
  | enabled (status : UInt32)
  | advertisingData (status : UInt32)
  | advertisingParameters (status : UInt32)
  | advertisingState (status : UInt32)
  | connectionState (connected : Bool)
  | other
  deriving DecidableEq, Repr

/-- `SleS1Event`, as far as the loop reads it; a connection state is
`SLE_CONNECTION_STATE_CONNECTED` or it is not. -/
inductive SleEvent where
  | enabled (status : UInt32)
  | announceEnabled (status : UInt32)
  | connectionStateChanged (connected : Bool)
  | other
  deriving DecidableEq, Repr

def bleArm (started : Bool) (event : BleEvent) : CoexArm :=
  match event with
  | .enabled status =>
    if status = 0 then if started then .ignore else .start else .fail (.bleErr status)
  | .advertisingData status | .advertisingParameters status =>
    if status = 0 then .ignore else .fail (.bleErr status)
  | .advertisingState status => if status = 1 then .write .bleReady else .fail (.bleErr status)
  | .connectionState connected => if connected then .write .bleConnected else .ignore
  | .other => .ignore

/-- The guard of the first arm hands an `Enabled` on to the failure arm. -/
def sleArm (started : Bool) (event : SleEvent) : CoexArm :=
  match event with
  | .enabled status => if status = 0 ∧ ¬ started then .start else .fail (.sleErr status)
  | .announceEnabled status => if status = 0 then .write .sleReady else .fail (.sleErr status)
  | .connectionStateChanged connected => if connected then .write .sleConnected else .ignore
  | .other => .ignore

/-- A service loop: its arms, the calls of its starting arm, and its line for
a dropped event. -/
structure CoexServer (ε : Type) where
  arm : Bool → ε → CoexArm
  setup : List CoexCall
  begins : CoexCall
  eventDrop : CoexLine

def bleServer : CoexServer BleEvent where
  arm := bleArm
  setup := []
  begins := .startAdvertising
  eventDrop := .bleEventDrop

def sleServer : CoexServer SleEvent where
  arm := sleArm
  setup := [.setLocalAddress]
  begins := .startAnnounce
  eventDrop := .sleEventDrop

namespace CoexServer

variable {ε : Type}

/-- Where a service call stands, before the input it needs next. -/
inductive Point where
  /-- Between two service calls. -/
  | idle
  | loopHead
  /-- In the starting arm, with the calls still to make before the last. -/
  | starting (setup : List CoexCall)
  | dropped
  | panicked

/-- `started` outlives a service call. -/
structure Service where
  started : Bool
  point : Point

def Service.init : Service := ⟨false, .idle⟩

inductive Input (ε : Type) where
  | service
  /-- `next_event`; `none` is an empty queue. -/
  | nextEvent (event : Option ε)
  | api (ok : Bool)
  | droppedEvents (count : UInt32)

def service (server : CoexServer ε) (s : Service) (input : Input ε) :
    Option (Service × List CoexEffect) :=
  match s.point, input with
  | .idle, .service => some ({ s with point := .loopHead }, [])
  | .loopHead, .nextEvent (some event) =>
    match server.arm s.started event with
    | .start => some ({ s with point := .starting server.setup }, [])
    | .ignore => some (s, [])
    | .write line => some (s, [.write line])
    | .fail line => some ({ s with point := .panicked }, [.write line])
  | .loopHead, .nextEvent none => some ({ s with point := .dropped }, [])
  | .starting (call :: setup), .api ok =>
    some ({ s with point := if ok then .starting setup else .panicked }, [.call call])
  | .starting [], .api ok =>
    if ok then some ({ started := true, point := .loopHead }, [.call server.begins])
    else some ({ s with point := .panicked }, [.call server.begins])
  | .dropped, .droppedEvents count =>
    if count ≠ 0 then some ({ s with point := .panicked }, [.write server.eventDrop])
    else some ({ s with point := .idle }, [])
  | _, _ => none

/-- What a step can do. -/
inductive Step (server : CoexServer ε) (s : Service) :
    Input ε → Service → List CoexEffect → Prop
  | service (at_point : s.point = .idle) :
      Step server s .service { s with point := .loopHead } []
  | start (at_point : s.point = .loopHead) (event : ε)
      (arm : server.arm s.started event = .start) :
      Step server s (.nextEvent (some event)) { s with point := .starting server.setup } []
  | pass (at_point : s.point = .loopHead) (event : ε) (out : List CoexEffect)
      (written : server.arm s.started event = .ignore ∧ out = [] ∨
        ∃ line, server.arm s.started event = .write line ∧ out = [.write line]) :
      Step server s (.nextEvent (some event)) s out
  | fail (at_point : s.point = .loopHead) (event : ε) (line : CoexLine)
      (arm : server.arm s.started event = .fail line) :
      Step server s (.nextEvent (some event)) { s with point := .panicked } [.write line]
  | drained (at_point : s.point = .loopHead) :
      Step server s (.nextEvent none) { s with point := .dropped } []
  | setup (call : CoexCall) (setup : List CoexCall)
      (at_point : s.point = .starting (call :: setup)) (ok : Bool) :
      Step server s (.api ok) { s with point := if ok then .starting setup else .panicked }
        [.call call]
  | begun (at_point : s.point = .starting []) :
      Step server s (.api true) { started := true, point := .loopHead } [.call server.begins]
  | refused (at_point : s.point = .starting []) :
      Step server s (.api false) { s with point := .panicked } [.call server.begins]
  | overflow (at_point : s.point = .dropped) (count : UInt32) (dropped : count ≠ 0) :
      Step server s (.droppedEvents count) { s with point := .panicked }
        [.write server.eventDrop]
  | resume (at_point : s.point = .dropped) (count : UInt32) (kept : count = 0) :
      Step server s (.droppedEvents count) { s with point := .idle } []

theorem step_cases {server : CoexServer ε} {s t : Service} {input : Input ε}
    {out : List CoexEffect} (h : service server s input = some (t, out)) :
    Step server s input t out := by
  unfold CoexServer.service at h
  split at h
  case h_1 at_point =>
    cases h
    exact .service at_point
  case h_2 event at_point =>
    split at h <;> rename_i arm <;> cases h
    · exact .start at_point event arm
    · exact .pass at_point event _ (.inl ⟨arm, rfl⟩)
    · exact .pass at_point event _ (.inr ⟨_, arm, rfl⟩)
    · exact .fail at_point event _ arm
  case h_3 at_point =>
    cases h
    exact .drained at_point
  case h_4 call setup ok at_point =>
    cases h
    exact .setup call setup at_point ok
  case h_5 ok at_point =>
    cases ok <;> cases h
    · exact .refused at_point
    · exact .begun at_point
  case h_6 count at_point =>
    split at h
    · rename_i dropped
      cases h
      exact .overflow at_point count dropped
    · rename_i kept
      cases h
      exact .resume at_point count (not_not.mp kept)
  case h_7 => cases h

/-- A move of a service loop. -/
abbrev Serving (ε : Type) := Move Service (Input ε) CoexEffect

/-- The event a move dequeued. -/
def event (m : Serving ε) : Option ε :=
  match m.input with
  | .nextEvent event => event
  | _ => none

def events (ms : List (Serving ε)) : List ε := ms.filterMap event

/-- The call that makes a server visible to others. -/
def starts (server : CoexServer ε) (m : Serving ε) : Bool := .call server.begins ∈ m.effects

/-- Every controller call succeeds, and no event is dropped. -/
def Input.benign : Input ε → Prop
  | .api ok => ok = true
  | .droppedEvents count => count = 0
  | _ => True

theorem events_snoc (ms : List (Serving ε)) (m : Serving ε) :
    events (ms ++ [m]) = events ms ++ (event m).toList :=
  filterMap_snoc event ms m

section
variable [DecidableEq ε]

/-- No event of the list takes a failing arm, with the server started by the
first `enabled`. -/
def Accepts (server : CoexServer ε) (enabled : ε) (es : List ε) : Prop :=
  ∀ earlier e later, es = earlier ++ e :: later →
    ∀ line, server.arm (decide (enabled ∈ earlier)) e ≠ .fail line

theorem accepts_snoc {server : CoexServer ε} {enabled : ε} {es : List ε} {e : ε} :
    Accepts server enabled (es ++ [e]) ↔
      Accepts server enabled es ∧ ∀ line, server.arm (decide (enabled ∈ es)) e ≠ .fail line := by
  constructor
  · intro accepts
    refine ⟨?_, accepts es e [] rfl⟩
    rintro earlier x later rfl
    exact accepts earlier x (later ++ [e]) (by simp)
  · rintro ⟨accepts, last⟩ earlier x later split
    rcases snoc_split split with ⟨rfl, rfl, -⟩ | ⟨rest, -, before⟩
    · exact last
    · exact accepts earlier x rest before

/-- The first `enabled` of a list is its last event. -/
def JustEnabled (enabled : ε) (es : List ε) : Prop :=
  ∃ earlier, es = earlier ++ [enabled] ∧ enabled ∉ earlier

/-- The starting arm takes the first `enabled` and nothing else, and its last
call is unlike the ones before it. -/
structure Guarded (server : CoexServer ε) (enabled : ε) : Prop where
  start : ∀ started e, server.arm started e = .start ↔ started = false ∧ e = enabled
  setup : server.begins ∉ server.setup

/-- Where a loop stands after the events `es`. -/
def Stands (server : CoexServer ε) (enabled : ε) (es : List ε) (s : Service) : Prop :=
  match s.point with
  | .starting setup => s.started = false ∧ server.begins ∉ setup ∧ JustEnabled enabled es ∧
    Accepts server enabled es
  | .panicked => (s.started = true ↔ enabled ∈ es) ∧ ∃ earlier e line, es = earlier ++ [e] ∧
    Accepts server enabled earlier ∧ server.arm (decide (enabled ∈ earlier)) e = .fail line
  | _ => (s.started = true ↔ enabled ∈ es) ∧ Accepts server enabled es

structure Sound (server : CoexServer ε) (enabled : ε) (ms : List (Serving ε)) (s : Service) :
    Prop where
  begun : ms.countP (starts server) = s.started.toNat
  first : ∀ pre a post, ms = pre ++ a :: post → starts server a = true →
    JustEnabled enabled (events pre)
  stands : Stands server enabled (events ms) s

variable {server : CoexServer ε} {enabled : ε}

theorem Sound.next {ms : List (Serving ε)} {s t : Service} (sound : Sound server enabled ms s)
    {input : Input ε} {out : List CoexEffect}
    (begun : s.started.toNat + (starts server ⟨s, input, out, t⟩).toNat = t.started.toNat)
    (new : starts server ⟨s, input, out, t⟩ = true → JustEnabled enabled (events ms))
    (stands : Stands server enabled (events ms ++ (event ⟨s, input, out, t⟩).toList) t) :
    Sound server enabled (ms ++ [⟨s, input, out, t⟩]) t := by
  constructor
  · rw [List.countP_append, sound.begun, ← begun]
    cases h : starts server ⟨s, input, out, t⟩ <;> simp [h]
  · intro pre a post split started
    rcases snoc_split split with ⟨rfl, rfl, -⟩ | ⟨rest, -, before⟩
    · exact new started
    · exact sound.first pre a rest before started
  · rw [events_snoc]
    exact stands

/-- A move without an event and without a call. -/
theorem Sound.quiet {ms : List (Serving ε)} {s t : Service} (sound : Sound server enabled ms s)
    {input : Input ε} (started : t.started = s.started)
    (unseen : event (⟨s, input, [], t⟩ : Serving ε) = none)
    (stands : Stands server enabled (events ms) t) :
    Sound server enabled (ms ++ [⟨s, input, [], t⟩]) t := by
  refine sound.next ?_ nofun ?_
  · rw [started]
    rfl
  · rw [unseen, Option.toList_none, List.append_nil]
    exact stands

theorem started_eq {s : Service} {es : List ε} (started : s.started = true ↔ enabled ∈ es) :
    decide (enabled ∈ es) = s.started := by
  rw [Bool.eq_iff_iff, started, decide_eq_true_iff]

omit [DecidableEq ε] in
/-- An event that does not start the server leaves `started` right. -/
theorem Guarded.settled (guarded : Guarded server enabled) {s : Service} {es : List ε} {e : ε}
    (started : s.started = true ↔ enabled ∈ es) (other : server.arm s.started e ≠ .start) :
    s.started = true ↔ enabled ∈ es ++ [e] := by
  rw [List.mem_append, List.mem_singleton, ← started]
  refine ⟨.inl, ?_⟩
  rintro (begun | rfl)
  · exact begun
  · by_contra unstarted
    exact other ((guarded.start _ _).mpr ⟨by simpa using unstarted, rfl⟩)

theorem step_sound (guarded : Guarded server enabled) {ms : List (Serving ε)} {s t : Service}
    (sound : Sound server enabled ms s) {input : Input ε} {out : List CoexEffect}
    (benign : input.benign) (h : service server s input = some (t, out)) :
    Sound server enabled (ms ++ [⟨s, input, out, t⟩]) t := by
  have stands := sound.stands
  unfold Stands at stands
  cases step_cases h with
  | service at_point | drained at_point | resume at_point =>
    rw [at_point] at stands
    exact sound.quiet rfl rfl stands
  | start at_point e arm =>
    rw [at_point] at stands
    obtain ⟨started, accepts⟩ := stands
    obtain ⟨unstarted, rfl⟩ := (guarded.start _ _).mp arm
    have fresh : e ∉ events ms := by
      rw [← started, unstarted]
      exact nofun
    refine sound.next (by simp [starts]) nofun ⟨unstarted, guarded.setup, ⟨_, rfl, fresh⟩, ?_⟩
    refine accepts_snoc.mpr ⟨accepts, ?_⟩
    intro line failed
    rw [decide_eq_false fresh, (guarded.start false e).mpr ⟨rfl, rfl⟩] at failed
    cases failed
  | pass at_point e out written =>
    rw [at_point] at stands
    obtain ⟨started, accepts⟩ := stands
    have other : server.arm s.started e ≠ .start := by
      rcases written with ⟨arm, -⟩ | ⟨line, arm, -⟩ <;>
        · rw [arm]
          exact nofun
    have silent : starts server (⟨s, .nextEvent (some e), out, s⟩ : Serving ε) = false := by
      rcases written with ⟨-, rfl⟩ | ⟨line, -, rfl⟩ <;> simp [starts]
    refine sound.next (by rw [silent]; rfl) (fun started => ?_) ?_
    · rw [silent] at started
      cases started
    · unfold Stands
      rw [at_point]
      refine ⟨guarded.settled started other, accepts_snoc.mpr ⟨accepts, ?_⟩⟩
      intro line failed
      rw [started_eq started] at failed
      rcases written with ⟨arm, -⟩ | ⟨line, arm, -⟩ <;> cases arm.symm.trans failed
  | fail at_point e line arm =>
    rw [at_point] at stands
    obtain ⟨started, accepts⟩ := stands
    have other : server.arm s.started e ≠ .start := by
      rw [arm]
      exact nofun
    have silent : starts server (⟨s, .nextEvent (some e), [.write line],
        { s with point := .panicked }⟩ : Serving ε) = false := by simp [starts]
    refine sound.next (by rw [silent]; rfl) (fun started => ?_) ?_
    · rw [silent] at started
      cases started
    · refine ⟨guarded.settled started other, events ms, e, line, rfl, accepts, ?_⟩
      rw [started_eq started]
      exact arm
  | setup call setup at_point ok =>
    rw [at_point] at stands
    obtain ⟨unstarted, others, just, accepts⟩ := stands
    obtain rfl : ok = true := benign
    have differs : server.begins ≠ call := fun same => others (same ▸ List.mem_cons_self)
    have silent : starts server (⟨s, .api true, [.call call],
        { s with point := .starting setup }⟩ : Serving ε) = false := by simp [starts, differs]
    refine sound.next ?_ (fun started => ?_) ?_
    · rw [if_pos rfl, silent]
      rfl
    · rw [if_pos rfl, silent] at started
      cases started
    · rw [if_pos rfl, event, Option.toList_none, List.append_nil]
      exact ⟨unstarted, fun later => others (List.mem_cons_of_mem _ later), just, accepts⟩
  | begun at_point =>
    rw [at_point] at stands
    obtain ⟨unstarted, -, just, accepts⟩ := stands
    apply sound.next (by simp [starts, unstarted]) (fun _ => just)
    rw [event, Option.toList_none, List.append_nil]
    refine ⟨⟨fun _ => ?_, fun _ => rfl⟩, accepts⟩
    obtain ⟨earlier, same, -⟩ := just
    rw [same]
    exact List.mem_append_right _ (List.mem_singleton_self _)
  | refused at_point => cases benign
  | overflow at_point count dropped => exact absurd benign dropped

theorem run_sound (guarded : Guarded server enabled) {ms : List (Serving ε)} {s : Service}
    (run : Run (service server) .init ms s) (benign : ∀ m ∈ ms, m.input.benign) :
    Sound server enabled ms s := by
  have start : Sound server enabled [] Service.init := by
    refine ⟨rfl, fun pre a post split => ?_, by simp [Service.init, events], ?_⟩
    · cases pre <;> cases split
    · intro earlier e later split
      cases earlier <;> cases split
  refine run.history (P := fun ms s => (∀ m ∈ ms, m.input.benign) → Sound server enabled ms s)
    (fun _ => start) ?_ benign
  intro ms u input v out _ sound h benign
  have last : input.benign := benign ⟨u, input, out, v⟩ (by simp)
  exact step_sound guarded (sound fun m hm => benign m (List.mem_append_left _ hm)) last h

/-- A loop panics exactly at an event its arms do not accept, and at the first one. -/
theorem Sound.panicked {ms : List (Serving ε)} {s : Service} (sound : Sound server enabled ms s)
    (panicked : s.point = .panicked) : ¬ Accepts server enabled (events ms) ∧
      ∃ earlier e, events ms = earlier ++ [e] ∧ Accepts server enabled earlier := by
  have stands := sound.stands
  unfold Stands at stands
  rw [panicked] at stands
  obtain ⟨-, earlier, e, line, split, accepts, failed⟩ := stands
  exact ⟨fun all => all earlier e [] split line failed, earlier, e, split, accepts⟩

theorem Sound.going {ms : List (Serving ε)} {s : Service} (sound : Sound server enabled ms s)
    (going : s.point ≠ .panicked) : Accepts server enabled (events ms) := by
  have stands := sound.stands
  unfold Stands at stands
  split at stands
  · exact stands.2.2.2
  · rename_i panicked
    exact absurd panicked going
  · exact stands.2

theorem Sound.started {ms : List (Serving ε)} {s : Service} (sound : Sound server enabled ms s)
    (settled : ∀ setup, s.point ≠ .starting setup) : s.started = true ↔ enabled ∈ events ms := by
  have stands := sound.stands
  unfold Stands at stands
  split at stands
  · rename_i setup starting
    exact absurd starting (settled setup)
  · exact stands.1
  · exact stands.1

/-- The server is started once, at the first `enabled`, and its loop panics
exactly at a failing event. -/
structure Serves (server : CoexServer ε) (enabled : ε) (fails : ε → Bool)
    (ms : List (Serving ε)) (s : Service) : Prop where
  once : ms.countP (starts server) ≤ 1
  first : ∀ pre a post, ms = pre ++ a :: post → starts server a = true →
    JustEnabled enabled (events pre)
  starts : (∀ setup, s.point ≠ .starting setup) →
    (ms.countP (starts server) = 1 ↔ enabled ∈ events ms)
  panics : s.point = .panicked ↔ ∃ e ∈ events ms, fails e = true

theorem Sound.serves {ms : List (Serving ε)} {s : Service} (sound : Sound server enabled ms s)
    {fails : ε → Bool} (panics : s.point = .panicked ↔ ∃ e ∈ events ms, fails e = true) :
    Serves server enabled fails ms s where
  once := by
    rw [sound.begun]
    exact Bool.toNat_le _
  first := sound.first
  starts := by
    intro settled
    rw [sound.begun, ← sound.started settled, Bool.toNat_eq_one]
  panics := panics

end

end CoexServer

open CoexServer

def serviceBle : Service → CoexServer.Input BleEvent → Option (Service × List CoexEffect) :=
  service bleServer

def serviceSle : Service → CoexServer.Input SleEvent → Option (Service × List CoexEffect) :=
  service sleServer

/-- A status the server has to stop at. -/
def BleEvent.fails : BleEvent → Bool
  | .enabled status | .advertisingData status | .advertisingParameters status => status ≠ 0
  | .advertisingState status => status ≠ 1
  | .connectionState _ | .other => false

def SleEvent.fails : SleEvent → Bool
  | .enabled status | .announceEnabled status => status ≠ 0
  | .connectionStateChanged _ | .other => false

theorem bleServer_guarded : Guarded bleServer (.enabled 0) where
  start := by
    intro started e
    cases e with
    | enabled status =>
      by_cases ok : status = 0 <;> cases started <;> simp [bleServer, bleArm, ok]
    | advertisingData status | advertisingParameters status =>
      by_cases ok : status = 0 <;> simp [bleServer, bleArm, ok]
    | advertisingState status => by_cases ok : status = 1 <;> simp [bleServer, bleArm, ok]
    | connectionState connected => cases connected <;> simp [bleServer, bleArm]
    | other => simp [bleServer, bleArm]
  setup := List.not_mem_nil

theorem sleServer_guarded : Guarded sleServer (.enabled 0) where
  start := by
    intro started e
    cases e with
    | enabled status =>
      by_cases ok : status = 0 <;> cases started <;> simp [sleServer, sleArm, ok]
    | announceEnabled status => by_cases ok : status = 0 <;> simp [sleServer, sleArm, ok]
    | connectionStateChanged connected => cases connected <;> simp [sleServer, sleArm]
    | other => simp [sleServer, sleArm]
  setup := by decide

/-- The BLE loop fails at the same events whether it has started or not. -/
theorem bleArm_fails (started : Bool) (e : BleEvent) :
    (∃ line, bleArm started e = .fail line) ↔ e.fails = true := by
  cases e with
  | enabled status =>
    by_cases ok : status = 0 <;> cases started <;> simp [bleArm, BleEvent.fails, ok]
  | advertisingData status | advertisingParameters status =>
    by_cases ok : status = 0 <;> simp [bleArm, BleEvent.fails, ok]
  | advertisingState status => by_cases ok : status = 1 <;> simp [bleArm, BleEvent.fails, ok]
  | connectionState connected => cases connected <;> simp [bleArm, BleEvent.fails]
  | other => simp [bleArm, BleEvent.fails]

/-- The SLE loop fails at a second success, too. -/
theorem sleArm_fails (started : Bool) (e : SleEvent) :
    (∃ line, sleArm started e = .fail line) ↔
      e.fails = true ∨ started = true ∧ e = .enabled 0 := by
  cases e with
  | enabled status =>
    by_cases ok : status = 0 <;> cases started <;> simp [sleArm, SleEvent.fails, ok]
  | announceEnabled status => by_cases ok : status = 0 <;> simp [sleArm, SleEvent.fails, ok]
  | connectionStateChanged connected => cases connected <;> simp [sleArm, SleEvent.fails]
  | other => simp [sleArm, SleEvent.fails]

theorem ble_accepts_iff (es : List BleEvent) :
    Accepts bleServer (.enabled 0) es ↔ ∀ e ∈ es, e.fails = false := by
  induction es using List.reverseRecOn with
  | nil => simp [Accepts]
  | append_singleton es e ih =>
    have arm : (∀ line, bleArm (decide (.enabled 0 ∈ es)) e ≠ .fail line) ↔ e.fails = false := by
      rw [← not_exists, bleArm_fails, Bool.not_eq_true]
    rw [accepts_snoc, ih, List.forall_mem_append, List.forall_mem_singleton]
    exact and_congr_right fun _ => arm

theorem sle_accepts_iff (es : List SleEvent) :
    Accepts sleServer (.enabled 0) es ↔
      (∀ e ∈ es, e.fails = false) ∧ es.count (.enabled 0) ≤ 1 := by
  induction es using List.reverseRecOn with
  | nil => simp [Accepts]
  | append_singleton es e ih =>
    have arm : (∀ line, sleArm (decide (.enabled 0 ∈ es)) e ≠ .fail line) ↔
        e.fails = false ∧ ¬ (.enabled 0 ∈ es ∧ e = .enabled 0) := by
      rw [← not_exists, sleArm_fails, not_or, Bool.not_eq_true, decide_eq_true_iff]
    rw [accepts_snoc, ih, List.forall_mem_append, List.forall_mem_singleton]
    apply (and_congr_right fun _ => arm).trans
    rw [List.count_append, List.count_singleton]
    by_cases same : e = .enabled 0
    · subst same
      have absent : SleEvent.enabled 0 ∉ es ↔ es.count (.enabled 0) = 0 := List.count_eq_zero.symm
      have passes : (SleEvent.enabled 0).fails = false := rfl
      simp only [passes, and_true, true_and, absent, beq_self_eq_true, if_true]
      constructor
      · rintro ⟨⟨all, -⟩, none⟩
        exact ⟨all, by omega⟩
      · rintro ⟨all, once⟩
        exact ⟨⟨all, by omega⟩, by omega⟩
    · simp only [same, and_false, not_false_eq_true, and_true, beq_iff_eq, if_false, Nat.add_zero]
      exact and_right_comm

theorem ble_serves {ms : List (Serving BleEvent)} {s : Service} (run : Run serviceBle .init ms s)
    (benign : ∀ m ∈ ms, m.input.benign) : Serves bleServer (.enabled 0) BleEvent.fails ms s := by
  have sound := run_sound bleServer_guarded run benign
  refine sound.serves ⟨?_, ?_⟩
  · intro panicked
    by_contra none
    refine (sound.panicked panicked).1 ((ble_accepts_iff _).mpr ?_)
    intro e he
    by_contra failed
    exact none ⟨e, he, by simpa using failed⟩
  · rintro ⟨e, he, failed⟩
    by_contra going
    have := (ble_accepts_iff _).mp (sound.going going) e he
    rw [failed] at this
    cases this

/-- The SLE loop is the same server as long as it meets one success at most. -/
theorem sle_serves_iff {ms : List (Serving SleEvent)} {s : Service}
    (run : Run serviceSle .init ms s) (benign : ∀ m ∈ ms, m.input.benign) :
    Serves sleServer (.enabled 0) SleEvent.fails ms s ↔ (events ms).count (.enabled 0) ≤ 1 := by
  have sound := run_sound sleServer_guarded run benign
  constructor
  · intro serves
    by_cases panicked : s.point = .panicked
    · obtain ⟨-, earlier, last, split, accepts⟩ := sound.panicked panicked
      obtain ⟨kept, once⟩ := (sle_accepts_iff _).mp accepts
      obtain ⟨e, he, failed⟩ := serves.panics.mp panicked
      -- the failing event is the last one, so the last one is no success
      have differs : last ≠ .enabled 0 := by
        rintro rfl
        rw [split] at he
        rcases List.mem_append.mp he with he | he
        · rw [kept e he] at failed
          cases failed
        · rw [List.mem_singleton.mp he] at failed
          cases failed
      rw [split, List.count_append, List.count_singleton, if_neg (by simpa using differs)]
      exact once
    · exact ((sle_accepts_iff _).mp (sound.going panicked)).2
  · intro once
    refine sound.serves ⟨?_, ?_⟩
    · intro panicked
      by_contra none
      refine (sound.panicked panicked).1 ((sle_accepts_iff _).mpr ⟨?_, once⟩)
      intro e he
      by_contra failed
      exact none ⟨e, he, by simpa using failed⟩
    · rintro ⟨e, he, failed⟩
      by_contra going
      have := ((sle_accepts_iff _).mp (sound.going going)).1 e he
      rw [failed] at this
      cases this

/-- The BLE loop serves on every run; the SLE loop on those that meet at most
one successful `Enabled`. -/
theorem coexistence_serves (bleMoves : List (Serving BleEvent)) (ble : Service)
    (bleRun : Run serviceBle .init bleMoves ble) (bleBenign : ∀ m ∈ bleMoves, m.input.benign)
    (sleMoves : List (Serving SleEvent)) (sle : Service)
    (sleRun : Run serviceSle .init sleMoves sle) (sleBenign : ∀ m ∈ sleMoves, m.input.benign) :
    Serves bleServer (.enabled 0) BleEvent.fails bleMoves ble ∧
      (Serves sleServer (.enabled 0) SleEvent.fails sleMoves sle ↔
        (events sleMoves).count (.enabled 0) ≤ 1) :=
  ⟨ble_serves bleRun bleBenign, sle_serves_iff sleRun sleBenign⟩

/-- Two successes at the BLE loop, one at the SLE loop, over two service calls. -/
theorem coexistence_serves_enabled :
    ∃ bleMoves ble sleMoves sle, Run serviceBle .init bleMoves ble ∧
      Run serviceSle .init sleMoves sle ∧
      events bleMoves = [.enabled 0, .enabled 0] ∧ ble.point ≠ .panicked ∧
      events sleMoves = [.enabled 0, .announceEnabled 0] ∧
      Serves bleServer (.enabled 0) BleEvent.fails bleMoves ble ∧
      Serves sleServer (.enabled 0) SleEvent.fails sleMoves sle := by
  have bleRun : Run serviceBle .init _ _ :=
    exec_run [.service, .nextEvent (some (.enabled 0)), .api true, .nextEvent none,
      .droppedEvents 0, .service, .nextEvent (some (.enabled 0))] rfl
  have sleRun : Run serviceSle .init _ _ :=
    exec_run [.service, .nextEvent (some (.enabled 0)), .api true, .api true, .nextEvent none,
      .droppedEvents 0, .service, .nextEvent (some (.announceEnabled 0))] rfl
  obtain ⟨ble, sle⟩ := coexistence_serves _ _ bleRun (by simp [Input.benign]) _ _ sleRun
    (by simp [Input.benign])
  exact ⟨_, _, _, _, bleRun, sleRun, rfl, nofun, rfl, ble, sle.mpr (by decide)⟩

/-- A second success makes the SLE loop panic. -/
theorem service_sle_repeated_enabled :
    ∃ ms s, Run serviceSle .init ms s ∧ (∀ m ∈ ms, m.input.benign) ∧
      events ms = [.enabled 0, .enabled 0] ∧ s.point = .panicked ∧
      ¬ Serves sleServer (.enabled 0) SleEvent.fails ms s := by
  have run : Run serviceSle .init _ _ :=
    exec_run [.service, .nextEvent (some (.enabled 0)), .api true, .api true,
      .nextEvent (some (.enabled 0))] rfl
  refine ⟨_, _, run, by simp [Input.benign], rfl, rfl, ?_⟩
  intro serves
  obtain ⟨e, he, failed⟩ := serves.panics.mp rfl
  have member : e ∈ [SleEvent.enabled 0, .enabled 0] := he
  obtain rfl : e = .enabled 0 := by simpa using member
  cases failed

end Ws63Examples.Softap
