import OroEdge.Lib.Pairing
import Mathlib.Data.List.Basic

/-!
# The sensor subscribers

The dog wellbeing node and the environment node read the sensor bus in a loop of their own
(`thread_func`).  A round of the loop takes two frames from the socket, the first one for a
topic and the second one for a payload; whether both belong to one message it does not ask.
`recv` returns the next frame of the current message, or the first frame of the next one,
so that the loop reads the frames of all messages in a row.

The two loops differ in their subscriptions and in what they do with a topic and a payload
(`dispatch`).  A `float` is kept as its four bytes.

A topic that a subscription lets through is longer than any payload.  Out of step, the loop
takes it for a payload and drops it, so that a message of two frames is either dispatched as
it is, or not at all.
-/

namespace OroEdge.Sensors

open OroEdge.Lib

/-- The bytes of a part of a message. -/
abbrev Frame := List UInt8

/-- The bytes of an ASCII text. -/
def bytes (text : String) : Frame := text.toList.map fun c => UInt8.ofNat c.toNat

/-- A message that is let through: one frame or more, and the first one starts with a
subscription. -/
structure Message (subscriptions : List Frame) where
  first : Frame
  rest : List Frame
  subscribed : ∃ subscription ∈ subscriptions, subscription <+: first

/-- The parts of a message. -/
def Message.frames {subscriptions : List Frame} (message : Message subscriptions) : List Frame :=
  message.first :: message.rest

/-- The sizes of a payload: a `float`, or a `MsgHeader` of ten bytes and a `float`. -/
def IsPayload (payload : Frame) : Prop := payload.length = 4 ∨ payload.length = 14

instance (payload : Frame) : Decidable (IsPayload payload) := inferInstanceAs (Decidable (_ ∨ _))

/-- The bytes of the `float`. -/
def floatOf (payload : Frame) : Frame := if payload.length = 4 then payload else payload.drop 10

/-- `memcpy` into a `uint64_t`. -/
def uint64Of (data : Frame) : ℕ := data.foldr (fun byte value => byte.toNat + 256 * value) 0

/-! ## Subscribers -/

/-- A subscriber dispatches payloads of its topics, and no subscription is as short as a
payload. -/
structure Subscriber (Call : Type) where
  subscriptions : List Frame
  topics : List Frame
  dispatch : ℕ → Frame → Frame → List Call
  dispatch_ne_nil_iff : ∀ now topic payload,
    dispatch now topic payload ≠ [] ↔ topic ∈ topics ∧ IsPayload payload
  long : ∀ subscription ∈ subscriptions, 14 < subscription.length

namespace Subscriber

variable {Call : Type} (subscriber : Subscriber Call) (clock : ℕ → ℕ)

/-- The calls of the loop; `clock n` is the time that is read in its round `n`. -/
def threadFunc (frames : List Frame) : List Call :=
  readPairs (fun n topic payload => subscriber.dispatch (clock n) topic payload) 0 frames

/-- The parts of the messages, one after the other, as they lie in the queue. -/
def frames (messages : List (Message subscriber.subscriptions)) : List Frame :=
  messages.flatMap Message.frames

/-- The calls after some messages. -/
def calls (messages : List (Message subscriber.subscriptions)) : List Call :=
  subscriber.threadFunc clock (subscriber.frames messages)

/-- When a message of two frames has come, it has been dispatched with its own topic and its
own payload, and nothing else has. -/
def DispatchesOwn (messages : List (Message subscriber.subscriptions)) : Prop :=
  ∀ earlier message later, messages = earlier ++ message :: later →
    ∀ topic payload, message.frames = [topic, payload] →
      subscriber.calls clock (earlier ++ [message]) = subscriber.calls clock earlier ++
        subscriber.dispatch (clock ((subscriber.frames earlier).length / 2)) topic payload

/-- An even number of frames has come before each message of two frames that has something to
dispatch. -/
def InStep (messages : List (Message subscriber.subscriptions)) : Prop :=
  ∀ earlier message later, messages = earlier ++ message :: later →
    ∀ topic payload, message.frames = [topic, payload] →
      topic ∈ subscriber.topics ∧ IsPayload payload → Even (subscriber.frames earlier).length

variable {subscriber clock}

theorem frames_append_singleton (earlier : List (Message subscriber.subscriptions))
    (message : Message subscriber.subscriptions) :
    subscriber.frames (earlier ++ [message]) = subscriber.frames earlier ++ message.frames := by
  rw [frames, List.flatMap_append, List.flatMap_singleton]
  rfl

/-- A topic is not taken for a payload. -/
theorem not_isPayload_first (message : Message subscriber.subscriptions) :
    ¬ IsPayload message.first := by
  obtain ⟨subscription, hmem, hprefix⟩ := message.subscribed
  have hlong := subscriber.long subscription hmem
  have hle := hprefix.length_le
  unfold IsPayload
  omega

theorem dispatch_first_eq_nil (now : ℕ) (frame : Frame)
    (message : Message subscriber.subscriptions) :
    subscriber.dispatch now frame message.first = [] := by
  by_contra hne
  exact not_isPayload_first message ((subscriber.dispatch_ne_nil_iff _ _ _).mp hne).2

section

variable {earlier : List (Message subscriber.subscriptions)}
  {message : Message subscriber.subscriptions} {topic payload : Frame}
  (hframes : message.frames = [topic, payload])

include hframes

/-- In step: a round takes the two frames of the message. -/
theorem calls_append_of_even (heven : Even (subscriber.frames earlier).length) :
    subscriber.calls clock (earlier ++ [message]) = subscriber.calls clock earlier ++
      subscriber.dispatch (clock ((subscriber.frames earlier).length / 2)) topic payload := by
  rw [calls, threadFunc, frames_append_singleton, hframes, readPairs_append_of_even 0 heven,
    readPairs_cons_cons, readPairs_nil, List.append_nil, zero_add]
  rfl

/-- Out of step: the topic is dropped as the payload of an earlier frame, and the payload
waits for another one. -/
theorem calls_append_of_odd (hodd : ¬ Even (subscriber.frames earlier).length) :
    subscriber.calls clock (earlier ++ [message]) = subscriber.calls clock earlier := by
  have hfirst : message.first = topic := (List.cons.inj hframes).1
  rcases (subscriber.frames earlier).eq_nil_or_concat with hnil | ⟨init, last, hsplit⟩
  · rw [hnil] at hodd
    exact absurd Even.zero hodd
  · rw [List.concat_eq_append] at hsplit
    have heven : Even init.length := by
      rw [hsplit, List.length_append, List.length_singleton, Nat.even_add_one, not_not] at hodd
      exact hodd
    rw [calls, calls, threadFunc, threadFunc, frames_append_singleton, hframes, hsplit,
      readPairs_append_cons_of_odd 0 heven, readPairs_singleton, List.append_nil, ← hfirst,
      dispatch_first_eq_nil, List.append_nil]

theorem calls_append_iff : subscriber.calls clock (earlier ++ [message]) =
      subscriber.calls clock earlier ++
        subscriber.dispatch (clock ((subscriber.frames earlier).length / 2)) topic payload ↔
    (topic ∈ subscriber.topics ∧ IsPayload payload →
      Even (subscriber.frames earlier).length) := by
  by_cases heven : Even (subscriber.frames earlier).length
  · exact iff_of_true (calls_append_of_even hframes heven) fun _ => heven
  · rw [calls_append_of_odd hframes heven, List.self_eq_append_right,
      ← subscriber.dispatch_ne_nil_iff (clock ((subscriber.frames earlier).length / 2)) topic
        payload]
    constructor
    · exact fun hnil hne => absurd hnil hne
    · exact fun himp => of_not_not fun hne => heven (himp hne)

end

/-- **Each message of two frames on its own**, exactly if those that have something to
dispatch come in step. -/
theorem dispatchesOwn_iff (messages : List (Message subscriber.subscriptions)) :
    subscriber.DispatchesOwn clock messages ↔ subscriber.InStep messages := by
  constructor
  · intro hown earlier message later hsplit topic payload hframes
    exact (calls_append_iff hframes).mp (hown earlier message later hsplit topic payload hframes)
  · intro hstep earlier message later hsplit topic payload hframes
    exact (calls_append_iff hframes).mpr (hstep earlier message later hsplit topic payload hframes)

end Subscriber

/-! ## The dog wellbeing node -/

/-- What the subscriber of the wellbeing node calls. -/
inductive WellbeingCall
  | updateBowlWeight (bowlId : String) (weight : Frame) (now : ℕ)
  | updateWaterLevel (level : Frame) (now : ℕ)
  deriving DecidableEq, Repr

namespace DogWellbeing

def subscriptions : List Frame := [bytes "/sensors/food_weight/", bytes "/sensors/water_level/tank"]

def topics : List Frame :=
  [bytes "/sensors/food_weight/bowl_1", bytes "/sensors/food_weight/bowl_2",
    bytes "/sensors/water_level/tank"]

def dispatch (now : ℕ) (topic payload : Frame) : List WellbeingCall :=
  if IsPayload payload then
    if topic = bytes "/sensors/food_weight/bowl_1" then
      [.updateBowlWeight "bowl_1" (floatOf payload) now]
    else if topic = bytes "/sensors/food_weight/bowl_2" then
      [.updateBowlWeight "bowl_2" (floatOf payload) now]
    else if topic = bytes "/sensors/water_level/tank" then
      [.updateWaterLevel (floatOf payload) now]
    else []
  else []

theorem dispatch_ne_nil_iff (now : ℕ) (topic payload : Frame) :
    dispatch now topic payload ≠ [] ↔ topic ∈ topics ∧ IsPayload payload := by
  unfold dispatch topics
  simp only [List.mem_cons, List.not_mem_nil, or_false]
  split_ifs with hpayload hfirst hsecond hthird <;> simp [*]

theorem long_subscriptions : ∀ subscription ∈ subscriptions, 14 < subscription.length := by
  decide +kernel

def subscriber : Subscriber WellbeingCall :=
  ⟨subscriptions, topics, dispatch, dispatch_ne_nil_iff, long_subscriptions⟩

end DogWellbeing

/-! ## The environment node -/

inductive EnvironmentCall
  | updateTemperature (value : Frame) (observedAt : ℕ)
  | updateHumidity (value : Frame) (observedAt : ℕ)
  | updateLightLevel (value : Frame) (observedAt : ℕ)
  deriving DecidableEq, Repr

namespace EnvironmentCondition

def subscriptions : List Frame := [bytes "/sensors/environment/"]

def topics : List Frame :=
  [bytes "/sensors/environment/temperature", bytes "/sensors/environment/humidity",
    bytes "/sensors/environment/light_level", bytes "/sensors/environment/ambient_light"]

/-- The time in the header of a payload; without a header, the time of the clock. -/
def observedAt (now : ℕ) (payload : Frame) : ℕ :=
  if payload.length = 4 then now else uint64Of ((payload.drop 2).take 8)

def dispatch (now : ℕ) (topic payload : Frame) : List EnvironmentCall :=
  if IsPayload payload then
    if topic = bytes "/sensors/environment/temperature" then
      [.updateTemperature (floatOf payload) (observedAt now payload)]
    else if topic = bytes "/sensors/environment/humidity" then
      [.updateHumidity (floatOf payload) (observedAt now payload)]
    else if topic = bytes "/sensors/environment/light_level" ∨
        topic = bytes "/sensors/environment/ambient_light" then
      [.updateLightLevel (floatOf payload) (observedAt now payload)]
    else []
  else []

theorem dispatch_ne_nil_iff (now : ℕ) (topic payload : Frame) :
    dispatch now topic payload ≠ [] ↔ topic ∈ topics ∧ IsPayload payload := by
  unfold dispatch topics
  simp only [List.mem_cons, List.not_mem_nil, or_false]
  split_ifs with hpayload hfirst hsecond hthird <;> simp [*]

theorem long_subscriptions : ∀ subscription ∈ subscriptions, 14 < subscription.length := by
  decide +kernel

def subscriber : Subscriber EnvironmentCall :=
  ⟨subscriptions, topics, dispatch, dispatch_ne_nil_iff, long_subscriptions⟩

end EnvironmentCondition

/-- Both nodes dispatch each message of two frames on its own, exactly if those that have
something to dispatch come after an even number of frames. -/
theorem dispatchesOwn_iff_inStep (clock : ℕ → ℕ) :
    (∀ messages, DogWellbeing.subscriber.DispatchesOwn clock messages ↔
      DogWellbeing.subscriber.InStep messages) ∧
    ∀ messages, EnvironmentCondition.subscriber.DispatchesOwn clock messages ↔
      EnvironmentCondition.subscriber.InStep messages := by
  constructor
  · intro messages
    exact Subscriber.dispatchesOwn_iff messages
  · intro messages
    exact Subscriber.dispatchesOwn_iff messages

/-- A message without a payload. -/
def bareTopic : Message DogWellbeing.subscriptions :=
  ⟨bytes "/sensors/food_weight/bowl_1", [], by decide +kernel⟩

/-- A report that is a float and nothing else. -/
def weightReport : Message DogWellbeing.subscriptions :=
  ⟨bytes "/sensors/food_weight/bowl_1", [[0, 0, 200, 66]], by decide +kernel⟩

/-- After a message of one frame, a weight of a hundred grams is not dispatched. -/
theorem not_dispatchesOwn_bareTopic :
    ¬ DogWellbeing.subscriber.DispatchesOwn (fun _ => 0) [bareTopic, weightReport] := by
  intro hown
  have hreport := hown [bareTopic] weightReport [] rfl _ _ rfl
  exact absurd hreport (by decide +kernel)

end OroEdge.Sensors
