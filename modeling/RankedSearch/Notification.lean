import RankedSearch.Json.Fields
import RankedSearch.Query.Id
import RankedSearch.Stage
import RankedSearch.Text.Quoted

/-! What the service tells about a query. On the wire a notification is a record of the query's id,
a type and data that some types need, some ignore and one may leave out. -/

namespace RankedSearch

open RankedSearch.Json

inductive News
  | stage (s : Stage)
  | imageProcessed (path : String)
  | collectionFinished
  | failure (message : String)
deriving DecidableEq, Repr

structure Notification where
  query : Query.Id
  news : News
deriving DecidableEq, Repr

namespace Notification

inductive Fault
  | unknownStage (raw : String)
  | unknownType (raw : String)
  | missingData (type : String)
deriving DecidableEq, Repr

def Fault.message : Fault → String
  | .unknownStage raw => s!"Unknown query stage {Text.quote raw}."
  | .unknownType raw => s!"Unknown notification type {Text.quote raw}."
  | .missingData type => s!"Notification {type} is missing its data field."

/-! ## The wire form -/

structure Wire where
  id : Query.Id
  type : String
  data : Option String
deriving DecidableEq, Repr

def stageType : String := "NTFY_STATE_CHANGE"
def imageType : String := "NTFY_IMAGE_PROCESSED"
def allImagesType : String := "NTFY_ALL_IMAGES_PROCESSED"
def errorType : String := "NTFY_ERROR"

def toWire (n : Notification) : Wire :=
  match n.news with
  | .stage s => ⟨n.query, stageType, some s.wireName⟩
  | .imageProcessed path => ⟨n.query, imageType, some path⟩
  | .collectionFinished => ⟨n.query, allImagesType, none⟩
  | .failure message => ⟨n.query, errorType, some message⟩

def stageOf (raw : String) : Except Fault Stage :=
  match Stage.ofText? raw with
  | some s => .ok s
  | none => .error (.unknownStage raw)

def newsOf (type : String) (data : Option String) : Except Fault News :=
  if type = stageType then
    match data with
    | some raw => (stageOf raw).map .stage
    | none => .error (.missingData type)
  else if type = imageType then
    match data with
    | some path => .ok (.imageProcessed path)
    | none => .error (.missingData type)
  else if type = allImagesType then .ok .collectionFinished
  else if type = errorType then .ok (.failure (data.getD ""))
  else .error (.unknownType type)

def ofWire (w : Wire) : Except Fault Notification := (newsOf w.type w.data).map (⟨w.id, ·⟩)

theorem ofWire_toWire (n : Notification) : ofWire n.toWire = .ok n := by
  obtain ⟨id, news⟩ := n
  cases news with
  | stage s =>
    simp only [ofWire, toWire, newsOf, stageOf, Stage.ofText?_wireName, if_pos]
    rfl
  | imageProcessed path => rfl
  | collectionFinished => rfl
  | failure message => rfl

/-! ## JSON -/

/-- A text, or null for none. -/
def dataOfJson? : Value → Option (Option String)
  | .null => some none
  | .string (some s) => some (some s)
  | _ => none

def Wire.ofJson? (v : Value) : Option Wire :=
  match v.fields? ["id", "type", "data"] with
  | some [id, type, data] => do
    let id ← required Query.Id.ofJson? id
    let type ← required Value.asText? type
    let data ← withDefault none dataOfJson? data
    return { id, type, data }
  | _ => none

def Wire.toJson (w : Wire) : Value :=
  .record ([("id", w.id.toJson), ("type", .text w.type)] ++
    w.data.toList.map fun data => ("data", .text data))

/-! ## Events -/

/-- The name that events with notifications bear. -/
def eventName : String := "notification"

inductive EventFault
  /-- The data is not JSON of the wire form. -/
  | json
  | notification (fault : Fault)
deriving DecidableEq, Repr

/-- The notification that an event carries; events of other names carry none. -/
def ofEvent (name data : String) : Except EventFault (Option Notification) :=
  if name = eventName then
    match (parse? data).bind Wire.ofJson? with
    | none => .error .json
    | some wire =>
      match ofWire wire with
      | .ok n => .ok (some n)
      | .error fault => .error (.notification fault)
  else .ok none

/-- The notifications of one query. -/
def forQuery (id : Query.Id) (ns : List Notification) : List Notification :=
  ns.filter (·.query = id)

end Notification

end RankedSearch
