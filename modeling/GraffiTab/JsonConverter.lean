/-
This file asks whether concurrent requests get their own part of a JSON body.

A parameter with `@JsonProperty` is read by one converter for all endpoints. A request
first configures the converter for its property and class, and then reads its body with
whatever is configured by then: the object mapper and the target class of the one
deserializer are shared, only the name of the property is its own. Every configuration
leaves the mapper and the deserializer at one class, so a request is answered as by a
converter of its own in every run in which the class that is configured when it reads is
its own class.
-/

import GraffiTab.Library.Runs
import GraffiTab.Results

namespace GraffiTab

open Runs

/-! ### The converter -/

/-- What goes wrong when a body is read. -/
inductive ReadFailure where
  | missingJsonProperty (message requestedJsonProperty : String)
  | unreadable
  deriving DecidableEq

/-- What the converter uses of Jackson: `readTree` and `get` on nodes, the mapper of the delegate,
and what an object mapper makes of a whole body when it has no deserializer for the class that is
asked for; it can have the shared deserializer for another class, with its target. -/
structure Jackson (Class Body Node Value : Type) where
  readTree : Body → Option Node
  get : Node → String → Option Node
  readValue : Class → Node → Option Value
  readBody : (registered target : Option Class) → (propertyToExtract : String) → Class → Body →
    Except ReadFailure Value

/-- A request that binds a parameter: the value of its annotation, the raw class of the parameter,
and the body. -/
structure JsonRequest (Class Body : Type) where
  propertyToExtract : String
  rawClass : Class
  body : Body

/-- The shared state: the class of the deserializer, the class for which the object mapper has it
registered, and the properties for which it is cached. -/
structure JsonConverter (Class : Type) where
  rawJavaClass : Option Class
  registeredClass : Option Class
  jsonPropertiesToDeserializer : List String

section Converter

variable {Class Body Node Value : Type} [DecidableEq Class]
  (jackson : Jackson Class Body Node Value)

/-- A converter that has not served a request. -/
def JsonConverter.new : JsonConverter Class := ⟨none, none, []⟩

/-- `configureObjectMapperForSpecificPropertyExtraction`. -/
def JsonConverter.configure (converter : JsonConverter Class) (request : JsonRequest Class Body) :
    JsonConverter Class :=
  if request.propertyToExtract ∉ converter.jsonPropertiesToDeserializer ∨
      converter.rawJavaClass ≠ some request.rawClass then
    { rawJavaClass := some request.rawClass
      registeredClass := some request.rawClass
      jsonPropertiesToDeserializer :=
        request.propertyToExtract :: converter.jsonPropertiesToDeserializer }
  else converter

/-- `SinglePropertyJsonDeserializer.deserialize`. -/
def deserialize (clazz : Option Class) (propertyName : String) (body : Body) :
    Except ReadFailure Value :=
  match jackson.readTree body with
  | none => .error .unreadable
  | some node =>
      match jackson.get node propertyName with
      | none =>
          .error (.missingJsonProperty
            ("The required property [" ++ propertyName ++ "] is not present in the request")
            propertyName)
      | some extractedJsonNode =>
          match clazz.bind fun clazz => jackson.readValue clazz extractedJsonNode with
          | none => .error .unreadable
          | some value => .ok value

/-- `AbstractJackson2HttpMessageConverter.read` with the object mapper as it is now. -/
def JsonConverter.read (converter : JsonConverter Class) (request : JsonRequest Class Body) :
    Except ReadFailure Value :=
  if converter.registeredClass = some request.rawClass then
    deserialize jackson converter.rawJavaClass request.propertyToExtract request.body
  else
    jackson.readBody converter.registeredClass converter.rawJavaClass request.propertyToExtract
      request.rawClass request.body

/-- What `JsonDtoArgumentResolver.resolveArgument` throws. -/
inductive BindingFailure where
  | missingJsonProperty (message requestedJsonProperty : String)
  | thrown (throwable : Throwable)
  deriving DecidableEq

/-- `JsonDtoArgumentResolver.resolveArgument`, from what the converter has read. -/
def resolveArgument (read : Except ReadFailure Value) : Except BindingFailure Value :=
  match read with
  | .ok value => .ok value
  | .error (.missingJsonProperty message requestedJsonProperty) =>
      .error (.missingJsonProperty message requestedJsonProperty)
  | .error .unreadable =>
      .error (.thrown (restApiException .invalidJson "Cannot process JSON payload"))

/-! ### Requests that overlap -/

/-- The requests that have configured the converter and not read yet, and those that were
answered. -/
structure ConverterState (Class Body Value : Type) where
  converter : JsonConverter Class
  configured : List (JsonRequest Class Body)
  answers : List (JsonRequest Class Body × Except BindingFailure Value)

/-- The two steps of a request; a read is the one of the request at a position. -/
inductive ConverterAction (Class Body : Type) where
  | configure (request : JsonRequest Class Body)
  | read (position : Nat)

def converterStep (state : ConverterState Class Body Value) :
    ConverterAction Class Body → Option (ConverterState Class Body Value)
  | .configure request =>
      some { state with
        converter := state.converter.configure request
        configured := state.configured ++ [request] }
  | .read position =>
      state.configured[position]?.map fun request =>
        { state with
          configured := state.configured.eraseIdx position
          answers := state.answers ++
            [(request, resolveArgument (state.converter.read jackson request))] }

/-- The service before its first request. -/
def ConverterState.initial : ConverterState Class Body Value := ⟨.new, [], []⟩

/-- The own property of the request in its own class. -/
def ownAnswer (request : JsonRequest Class Body) : Except BindingFailure Value :=
  resolveArgument
    (deserialize jackson (some request.rawClass) request.propertyToExtract request.body)

/-- What a converter answers that is there for the request alone. -/
def freshAnswer (request : JsonRequest Class Body) : Except BindingFailure Value :=
  resolveArgument ((JsonConverter.new.configure request).read jackson request)

/-- A request reads while its own class is configured. -/
def ReadsOwnClass (state : ConverterState Class Body Value) : ConverterAction Class Body → Prop
  | .configure _ => True
  | .read position => ∀ request, state.configured[position]? = some request →
      state.converter.rawJavaClass = some request.rawClass

/-! ### What the converter answers -/

/-- A configuration ends with the class of the request, whether it changes anything or not. -/
theorem rawJavaClass_configure (converter : JsonConverter Class)
    (request : JsonRequest Class Body) :
    (converter.configure request).rawJavaClass = some request.rawClass := by
  rw [JsonConverter.configure]
  split
  · rfl
  · rename_i unchanged
    exact Decidable.not_not.mp (not_or.mp unchanged).2

/-- The object mapper has the deserializer for the class that the deserializer reads. -/
def JsonConverter.Agrees (converter : JsonConverter Class) : Prop :=
  converter.registeredClass = converter.rawJavaClass

theorem agrees_configure {converter : JsonConverter Class} (agrees : converter.Agrees)
    (request : JsonRequest Class Body) : (converter.configure request).Agrees := by
  rw [JsonConverter.configure]
  split
  · rfl
  · exact agrees

/-- A converter that stands at the class of the request reads its property. -/
theorem read_own {converter : JsonConverter Class} (agrees : converter.Agrees)
    {request : JsonRequest Class Body}
    (own : converter.rawJavaClass = some request.rawClass) :
    resolveArgument (converter.read jackson request) = ownAnswer jackson request := by
  rw [JsonConverter.read, if_pos (agrees.trans own), own, ownAnswer]

theorem freshAnswer_eq (request : JsonRequest Class Body) :
    freshAnswer jackson request = ownAnswer jackson request := by
  have agrees : (JsonConverter.new : JsonConverter Class).Agrees := rfl
  exact read_own jackson (agrees_configure agrees request) (rawJavaClass_configure _ request)

/-! ### Runs -/

/-- The converter stands at one class, and all answers so far are right. -/
structure AnswersRightly (state : ConverterState Class Body Value) : Prop where
  agrees : state.converter.Agrees
  own : ∀ request answer, (request, answer) ∈ state.answers → answer = ownAnswer jackson request

theorem answersRightly_step {state next : ConverterState Class Body Value}
    {action : ConverterAction Class Body} (rightly : AnswersRightly jackson state)
    (ownClass : ReadsOwnClass state action)
    (taken : converterStep jackson state action = some next) : AnswersRightly jackson next := by
  cases action with
  | configure request =>
      obtain rfl := Option.some.inj taken
      exact ⟨agrees_configure rightly.agrees request, rightly.own⟩
  | read position =>
      obtain ⟨request, waiting, rfl⟩ := Option.map_eq_some_iff.mp taken
      refine ⟨rightly.agrees, fun other answer answered => ?_⟩
      rcases List.mem_append.mp answered with before | now
      · exact rightly.own other answer before
      · obtain ⟨rfl, rfl⟩ := Prod.mk.inj (List.mem_singleton.mp now)
        exact read_own jackson rightly.agrees (ownClass other waiting)

/-- Each request gets its own property in its own class, as a converter of its own would give it, in
every run in which the requests read while their own class is configured. -/
theorem answersOwnProperty_of_readsOwnClass {final : ConverterState Class Body Value}
    (reached : Reaches (converterStep jackson) ReadsOwnClass .initial final)
    {request : JsonRequest Class Body} {answer : Except BindingFailure Value}
    (answered : (request, answer) ∈ final.answers) :
    answer = ownAnswer jackson request ∧ answer = freshAnswer jackson request := by
  have rightly : AnswersRightly jackson final :=
    reached.invariant (AnswersRightly jackson) ⟨rfl, nofun⟩
      fun _ _ _ holds permitted taken => answersRightly_step jackson holds permitted taken
  have own := rightly.own request answer answered
  exact ⟨own, own.trans (freshAnswer_eq jackson request).symm⟩

end Converter

/-! ### Two endpoints -/

/-- The classes of two parameters. -/
inductive ParameterClass where
  | userDto
  | string
  deriving DecidableEq

/-- JSON with texts and objects. -/
inductive PlainNode where
  | text (text : String)
  | object (properties : List (String × PlainNode))

/-- A user with its name, or a text. -/
inductive PlainValue where
  | userDto (username : String)
  | string (text : String)

/-- A text is a `String`, and an object with a `username` and nothing else is a `UserDto`: an
unknown property is refused. -/
def readPlain : ParameterClass → PlainNode → Option PlainValue
  | .string, .text text => some (.string text)
  | .userDto, .object [("username", .text username)] => some (.userDto username)
  | _, _ => none

/-- Jackson on these classes. -/
def plainJackson : Jackson ParameterClass PlainNode PlainNode PlainValue where
  readTree body := some body
  get node property :=
    match node with
    | .text _ => none
    | .object properties => properties.lookup property
  readValue := readPlain
  readBody _ _ _ clazz body :=
    match readPlain clazz body with
    | some value => .ok value
    | none => .error .unreadable

def editRequest : JsonRequest ParameterClass PlainNode :=
  ⟨"user", .userDto, .object [("user", .object [("username", .text "alice")])]⟩

def resetRequest : JsonRequest ParameterClass PlainNode :=
  ⟨"email", .string, .object [("email", .text "bob@graffitab.com")]⟩

/-- The two requests one after the other. -/
def afterSeparateRequests : ConverterState ParameterClass PlainNode PlainValue :=
  (run (converterStep plainJackson) .initial
    [.configure editRequest, .read 0, .configure resetRequest, .read 0]).getD .initial

theorem answersOwnProperty_of_readsOwnClass_separate :
    (.ok (.string "bob@graffitab.com") : Except BindingFailure PlainValue) =
        ownAnswer plainJackson resetRequest ∧
      (.ok (.string "bob@graffitab.com") : Except BindingFailure PlainValue) =
        freshAnswer plainJackson resetRequest := by
  have reached : Reaches (converterStep plainJackson) ReadsOwnClass .initial
      afterSeparateRequests := by
    refine .tail (.tail (.tail (.tail .refl
      (show ReadsOwnClass _ (.configure editRequest) from trivial) rfl)
      (show ReadsOwnClass _ (.read 0) from ?_) rfl)
      (show ReadsOwnClass _ (.configure resetRequest) from trivial) rfl)
      (show ReadsOwnClass _ (.read 0) from ?_) rfl
    · intro request waiting
      obtain rfl := Option.some.inj waiting
      rfl
    · intro request waiting
      obtain rfl := Option.some.inj waiting
      rfl
  exact answersOwnProperty_of_readsOwnClass plainJackson reached
    (List.mem_cons_of_mem _ List.mem_cons_self)

/-- Another endpoint configures the converter between the two steps of a request, whose body then
cannot be read. -/
theorem not_answersOwnProperty : ¬ ∀ final,
    Reaches (converterStep plainJackson) unrestricted .initial final →
      ∀ request answer, (request, answer) ∈ final.answers →
        answer = ownAnswer plainJackson request ∧ answer = freshAnswer plainJackson request := by
  intro always
  have executed : run (converterStep plainJackson) .initial
      [.configure editRequest, .configure resetRequest, .read 0] =
        some ⟨(JsonConverter.new.configure editRequest).configure resetRequest, [resetRequest],
          [(editRequest, .error (.thrown
            (restApiException .invalidJson "Cannot process JSON payload")))]⟩ := by
    rfl
  have answered := (always _ (reaches_of_run_unrestricted _ executed) editRequest _
    List.mem_cons_self).1
  exact absurd answered nofun

end GraffiTab
