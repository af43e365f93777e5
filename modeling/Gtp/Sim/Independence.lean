/-
# The links of a fabric are independent

What one direction of one link shows in the event log depends on its own profile, its own stream,
the script and the calls that concern it.

* `LinkView` is the part of the fabric these can read and change.
* Every call moves the view in the same way whatever the rest of the fabric holds (`view_call`): a
  tick applies the script, a transmit on that direction draws from its stream, and every other call
  leaves the view alone.
* So the view after a run is a fold over the calls that concern the direction (`view_run`), and two
  runs that agree on them agree on its events (`fabric_links_independent`).

A fabric stops at an index that names no link; `run_isSome` says that nothing else stops a run.  The
contents of a packet are not in the view: an event tells its length and its fate.  When packets are
drained makes no difference to the events either; that is for `Gtp.Sim.Conservation`.
-/
import Gtp.Lib.Runs
import Gtp.Sim.Fabric

namespace Gtp

/-! ## 1. The view of one direction -/

/-- A call as one direction of one link sees it: the addresses and the contents make no
difference. -/
inductive LinkCall where
  | tickScript (now : MonotonicTime)
  | transmit (len : Nat) (now : MonotonicTime)
  deriving DecidableEq, Repr

/-- What direction `direction` of link `link` sees of a call. -/
def FabricCall.seenBy (link : Nat) (direction : FabricDirection) : FabricCall → Option LinkCall
  | tickScript now => some (.tickScript now)
  | transmit l d _ _ data now =>
    if l = link ∧ d = direction then some (.transmit data.length now) else none
  | drainReady _ => none

/-- The part of a fabric that one direction of one link can read: the script and its cursor, the
direction's profile and stream, and its events. -/
structure LinkView where
  script : List ScriptedImpairment
  scriptCursor : Nat
  channel : Option (NetworkProfile × UInt64)
  events : List FabricEvent

/-- The entry changes the profile of this direction. -/
def ScriptedImpairment.reaches (entry : ScriptedImpairment) (link : Nat)
    (direction : FabricDirection) : Bool :=
  entry.link = link ∧ entry.direction.covers direction

namespace LinkView

/-- `tick_script` on the view. -/
def tickEntries (link : Nat) (direction : FabricDirection) (now : MonotonicTime) :
    List ScriptedImpairment → LinkView → LinkView
  | [], v => v
  | entry :: rest, v =>
    if entry.at ≤ now then
      tickEntries link direction now rest
        { v with
          scriptCursor := v.scriptCursor + 1
          channel := v.channel.map fun c =>
            (if entry.reaches link direction then entry.delta.apply c.1 else c.1, c.2) }
    else
      v

/-- `transmit` on the view. -/
def transmit (v : LinkView) (link : Nat) (direction : FabricDirection) (len : Nat)
    (now : MonotonicTime) : LinkView :=
  match v.channel with
  | none => v
  | some (profile, rng) =>
    let (outcome, rng) := txOutcome profile rng len now
    { v with
      channel := some (profile, rng)
      events := v.events ++ [outcome.event link direction len] }

/-- One call on the view. -/
def call (link : Nat) (direction : FabricDirection) (v : LinkView) : LinkCall → LinkView
  | .tickScript now => tickEntries link direction now (v.script.drop v.scriptCursor) v
  | .transmit len now => v.transmit link direction len now

end LinkView

namespace SimulatedFabric

variable {f f' : SimulatedFabric} {link : Nat} {direction : FabricDirection}

/-- The profile and the stream of one direction of one link. -/
def channel (f : SimulatedFabric) (link : Nat) (direction : FabricDirection) :
    Option (NetworkProfile × UInt64) :=
  f.links[link]?.map fun l => (l.profile direction, l.rng direction)

/-- What one direction of one link can read of the fabric. -/
def view (link : Nat) (direction : FabricDirection) (f : SimulatedFabric) : LinkView where
  script := f.script
  scriptCursor := f.scriptCursor
  channel := f.channel link direction
  events := f.eventsOf link direction

/-! ## 2. Every call moves the view in its own way -/

/-- A link that takes the place of another is seen by its own directions alone. -/
theorem map_getElem?_set {links : List SimulatedLink} {k : Nat} {old new : SimulatedLink}
    (hold : links[k]? = some old) (g : SimulatedLink → NetworkProfile × UInt64) :
    (links.set k new)[link]?.map g = if k = link then some (g new) else links[link]?.map g := by
  have hk : k < links.length := (List.getElem?_eq_some_iff.mp hold).1
  rw [List.getElem?_set]
  by_cases h : k = link
  · subst h
    simp [hk]
  · simp [h]

/-- The script moves a view by the entries that reach it. -/
theorem view_tickEntries {now : MonotonicTime} {entries : List ScriptedImpairment}
    (h : tickEntries now entries f = some f') :
    f'.view link direction =
      LinkView.tickEntries link direction now entries (f.view link direction) := by
  induction entries generalizing f with
  | nil =>
    cases h
    rfl
  | cons entry rest ih =>
    rw [tickEntries] at h
    rw [LinkView.tickEntries]
    by_cases hdue : entry.at ≤ now
    · rw [if_pos hdue] at h ⊢
      obtain ⟨l, hl, hrest⟩ := Option.bind_eq_some_iff.mp h
      rw [ih hrest]
      congr 1
      simp only [view, channel, eventsOf, LinkView.mk.injEq, true_and, and_true]
      rw [map_getElem?_set hl]
      by_cases hk : entry.link = link
      · subst hk
        simp [hl, ScriptedImpairment.reaches]
      · simp [hk, ScriptedImpairment.reaches, Function.comp_def]
    · rw [if_neg hdue] at h ⊢
      cases h
      rfl

/-- A transmit, with its outcome named: the link's stream and queue and the log change. -/
theorem transmit_eq_some {l : Nat} {d : FabricDirection} {src dest : SocketAddr}
    {data : List UInt8} {now : MonotonicTime} (h : f.transmit l d src dest data now = some f') :
    ∃ old outcome, f.links[l]? = some old ∧
      outcome = txOutcome (old.profile d) (old.rng d) data.length now ∧
      f' = { f with
        links := f.links.set l { old.setRng d outcome.2 with
          queue := (old.setRng d outcome.2).queue ++ outcome.1.packets src dest data }
        eventLog := f.eventLog ++ [outcome.1.event l d data.length] } := by
  obtain ⟨old, hold, h⟩ := Option.bind_eq_some_iff.mp h
  exact ⟨old, _, hold, rfl, (Option.some.inj h).symm⟩

/-- A transmit on the direction moves its view by the outcome. -/
theorem view_transmit {src dest : SocketAddr} {data : List UInt8} {now : MonotonicTime}
    (h : f.transmit link direction src dest data now = some f') :
    f'.view link direction =
      (f.view link direction).transmit link direction data.length now := by
  obtain ⟨old, outcome, hold, houtcome, rfl⟩ := transmit_eq_some h
  have hchannel : (f.view link direction).channel =
      some (old.profile direction, old.rng direction) := by
    simp [view, channel, hold]
  simp only [LinkView.transmit, hchannel, ← houtcome]
  simp only [view, channel, eventsOf, LinkView.mk.injEq, true_and]
  rw [map_getElem?_set hold, if_pos rfl]
  constructor
  · cases direction <;> rfl
  · simp [isOf_event]

theorem view_transmit_other {l : Nat} {d : FabricDirection} {src dest : SocketAddr}
    {data : List UInt8} {now : MonotonicTime} (hother : ¬ (l = link ∧ d = direction))
    (h : f.transmit l d src dest data now = some f') :
    f'.view link direction = f.view link direction := by
  obtain ⟨old, outcome, hold, -, rfl⟩ := transmit_eq_some h
  simp only [view, channel, eventsOf, LinkView.mk.injEq, true_and]
  rw [map_getElem?_set hold]
  constructor
  · by_cases hl : l = link
    · subst hl
      rw [if_pos rfl, hold]
      -- The same link, the other direction.
      cases d <;> cases direction <;> simp at hother <;> rfl
    · rw [if_neg hl]
  · simp [isOf_event, hother]

theorem view_drainReady (now : MonotonicTime) :
    (f.drainReady now).2.view link direction = f.view link direction := by
  simp only [view, channel, eventsOf, drainReady, List.getElem?_map, Option.map_map]
  cases direction <;> rfl

/-- **One call.**  The view moves by what it sees of the call. -/
theorem view_call {c : FabricCall} (h : f.call c = some f') :
    f'.view link direction =
      (c.seenBy link direction).elim (f.view link direction)
        (LinkView.call link direction (f.view link direction)) := by
  cases c with
  | tickScript now => exact view_tickEntries h
  | transmit l d src dest data now =>
    simp only [FabricCall.seenBy]
    by_cases hseen : l = link ∧ d = direction
    · obtain ⟨rfl, rfl⟩ := hseen
      rw [if_pos ⟨rfl, rfl⟩]
      exact view_transmit h
    · rw [if_neg hseen]
      exact view_transmit_other hseen h
  | drainReady now =>
    cases h
    exact view_drainReady now

/-- **A whole run** moves the view by the calls it sees, in their order. -/
theorem view_run {calls : List FabricCall} (h : f.run calls = some f') :
    f'.view link direction =
      (calls.filterMap (FabricCall.seenBy link direction)).foldl (LinkView.call link direction)
        (f.view link direction) := by
  have hcalls : calls.foldlM call f = some f' := h
  refine Runs.view_foldlM ?_ hcalls
  intro g g' c hcall
  exact view_call hcall

/-! ## 3. Nothing but an index stops a run -/

/-- A call names a link of the fabric, if it names one. -/
def callInBounds (links : Nat) : FabricCall → Bool
  | .transmit l _ _ _ _ _ => l < links
  | _ => true

/-- Every call and every entry of the script names a link of the fabric. -/
def InBounds (f : SimulatedFabric) (calls : List FabricCall) : Prop :=
  (∀ entry ∈ f.script, entry.link < f.links.length) ∧
    ∀ c ∈ calls, callInBounds f.links.length c

/-- The script runs over links that exist, and keeps their number. -/
theorem tickEntries_isSome {now : MonotonicTime} {entries : List ScriptedImpairment}
    (h : ∀ entry ∈ entries, entry.link < f.links.length) :
    ∃ f', tickEntries now entries f = some f' ∧ f'.links.length = f.links.length ∧
      f'.script = f.script := by
  induction entries generalizing f with
  | nil => exact ⟨f, rfl, rfl, rfl⟩
  | cons entry rest ih =>
    rw [tickEntries]
    split
    · have hlink := h entry List.mem_cons_self
      rw [List.getElem?_eq_getElem hlink]
      obtain ⟨f', hrun, hlen, hscript⟩ := ih (f := { f with
        links := f.links.set entry.link (f.links[entry.link].impair entry)
        scriptCursor := f.scriptCursor + 1 }) (by
          intro e he
          rw [List.length_set]
          exact h e (List.mem_cons_of_mem _ he))
      exact ⟨f', hrun, hlen.trans (List.length_set ..), hscript⟩
    · exact ⟨f, rfl, rfl, rfl⟩

theorem call_isSome {c : FabricCall} (h : InBounds f [c]) :
    ∃ f', f.call c = some f' ∧ f'.links.length = f.links.length ∧ f'.script = f.script := by
  cases c with
  | tickScript now => exact tickEntries_isSome fun e he => h.1 e (List.mem_of_mem_drop he)
  | transmit l d src dest data now =>
    have hl : l < f.links.length := by simpa [callInBounds] using h.2 _ List.mem_cons_self
    simp only [call, transmit, List.getElem?_eq_getElem hl]
    exact ⟨_, rfl, by simp, rfl⟩
  | drainReady now => exact ⟨_, rfl, by simp [drainReady], rfl⟩

/-- **A run on links that exist returns.** -/
theorem run_isSome (f : SimulatedFabric) (calls : List FabricCall) (h : InBounds f calls) :
    ∃ f', f.run calls = some f' := by
  induction calls generalizing f with
  | nil => exact ⟨f, rfl⟩
  | cons c calls ih =>
    obtain ⟨hscript, hcalls⟩ := h
    rw [List.forall_mem_cons] at hcalls
    obtain ⟨f₁, hcall, hlen, hkept⟩ := call_isSome ⟨hscript, List.forall_mem_singleton.mpr hcalls.1⟩
    have hrest : InBounds f₁ calls := by
      rw [InBounds, hlen, hkept]
      exact ⟨hscript, hcalls.2⟩
    obtain ⟨f', hrun⟩ := ih f₁ hrest
    refine ⟨f', ?_⟩
    rw [run, List.foldlM_cons, hcall]
    exact hrun

/-! ## 4. Two runs -/

/-- What a new fabric shows of a link depends on that link's own profiles. -/
theorem view_new {masterSeed : UInt64} {profiles profiles' : List (NetworkProfile × NetworkProfile)}
    (h : profiles[link]? = profiles'[link]?) (script : List ScriptedImpairment) :
    ((new masterSeed profiles).withScript script).view link direction =
      ((new masterSeed profiles').withScript script).view link direction := by
  simp only [view, channel, withScript, new, eventsOf, List.getElem?_mapIdx, h]

/-- **The links of a fabric are independent.** Two fabrics of one master seed and one script, whose
link `link` has the same two profiles, are run by calls of which direction `direction` of that link
sees the same: then its events are the same, whatever the other links are, how many of them there
are, and what is sent on them or the other way in between.  The calls name links that exist; the
source panics at others. -/
theorem fabric_links_independent (masterSeed : UInt64) (script : List ScriptedImpairment)
    (profiles profiles' : List (NetworkProfile × NetworkProfile)) (link : Nat)
    (direction : FabricDirection) (calls calls' : List FabricCall) (f f' : SimulatedFabric)
    (hprofiles : profiles[link]? = profiles'[link]?)
    (hseen : calls.filterMap (FabricCall.seenBy link direction) =
      calls'.filterMap (FabricCall.seenBy link direction))
    (hrun : ((new masterSeed profiles).withScript script).run calls = some f)
    (hrun' : ((new masterSeed profiles').withScript script).run calls' = some f') :
    f.eventsOf link direction = f'.eventsOf link direction := by
  have hview : f.view link direction = f'.view link direction := by
    rw [view_run hrun, view_run hrun', hseen, view_new hprofiles]
  exact congrArg LinkView.events hview

/-- One packet each way on a fabric of one link, and the same packet forward, with other contents,
on a fabric of two, with a script that slows link 0 down: its forward events agree. -/
theorem fabric_links_independent_two :
    ∃ f f' : SimulatedFabric,
      ((new 7 [(.lan, .lan)]).withScript [⟨6, 0, .both, ⟨40000, 0, 0.1⟩⟩]).run
        [.transmit 0 .reverse ⟨2, 2⟩ ⟨1, 1⟩ [9] 5, .tickScript 6,
          .transmit 0 .forward ⟨1, 1⟩ ⟨2, 2⟩ [1, 2] 7] = some f ∧
      ((new 7 [(.lan, .lan), (.lan, .lan)]).withScript [⟨6, 0, .both, ⟨40000, 0, 0.1⟩⟩]).run
        [.tickScript 6, .transmit 1 .forward ⟨1, 1⟩ ⟨2, 2⟩ [5] 6,
          .transmit 0 .forward ⟨1, 1⟩ ⟨2, 2⟩ [3, 4] 7] = some f' ∧
      f.eventsOf 0 .forward = f'.eventsOf 0 .forward := by
  obtain ⟨f, hf⟩ := run_isSome ((new 7 [(.lan, .lan)]).withScript [⟨6, 0, .both, ⟨40000, 0, 0.1⟩⟩])
    [.transmit 0 .reverse ⟨2, 2⟩ ⟨1, 1⟩ [9] 5, .tickScript 6,
      .transmit 0 .forward ⟨1, 1⟩ ⟨2, 2⟩ [1, 2] 7]
    (by simp [InBounds, callInBounds, withScript, new])
  obtain ⟨f', hf'⟩ := run_isSome
    ((new 7 [(.lan, .lan), (.lan, .lan)]).withScript [⟨6, 0, .both, ⟨40000, 0, 0.1⟩⟩])
    [.tickScript 6, .transmit 1 .forward ⟨1, 1⟩ ⟨2, 2⟩ [5] 6,
      .transmit 0 .forward ⟨1, 1⟩ ⟨2, 2⟩ [3, 4] 7]
    (by simp [InBounds, callInBounds, withScript, new])
  refine ⟨f, f', hf, hf', ?_⟩
  refine fabric_links_independent 7 _ [(.lan, .lan)] [(.lan, .lan), (.lan, .lan)] 0 .forward _ _
    f f' rfl ?_ hf hf'
  decide

end SimulatedFabric
end Gtp
