import DeployService.Payload.Codec

/-!
# Long-running processes

The payloads of the service that runs long processes step by step: what it says about itself, the
tasks of a process, its logs, why it stopped, and what can be done with it.
-/

namespace DeployService.Payload.LongRunning

/-- The service that runs the process. -/
structure Metadata where
  /-- The id of the service. -/
  id : String
  version : String
  /-- Its name for display. -/
  displayName : String
  /-- What it does. -/
  description : String
  deriving DecidableEq

/-- The wire form of `Metadata`. -/
def Metadata.fields : Fields :=
  .cons "id" false .text <| .cons "version" false .text <| .cons "displayName" false .text <|
  .cons "description" false .text .nil

instance : Payload Metadata where
  shape := .record Metadata.fields
  toValue m := (m.id, m.version, m.displayName, m.description, ())
  ofValue | (id, version, displayName, description, ()) => { id, version, displayName, description }
  ofValue_toValue _ := rfl
  toValue_ofValue _ := rfl

/-- A log of the process. -/
structure Log where
  /-- The id of the log. -/
  id : String
  /-- Its name for display. -/
  displayName : String
  /-- What it is about. -/
  description : String
  /-- The media type of its content. -/
  format : String
  /-- When it was last modified. -/
  lastModified : Option String
  /-- Further information. -/
  externalInfo : Option String
  deriving DecidableEq

/-- The wire form of `Log`. -/
def Log.fields : Fields :=
  .cons "id" false .text <| .cons "displayName" false .text <| .cons "description" false .text <|
  .cons "format" false .text <| .cons "lastModified" true (.optional .text) <|
  .cons "externalInfo" true (.optional .text) .nil

instance : Payload Log where
  shape := .record Log.fields
  toValue l := (l.id, l.displayName, l.description, l.format, l.lastModified, l.externalInfo, ())
  ofValue
    | (id, displayName, description, format, lastModified, externalInfo, ()) =>
      { id, displayName, description, format, lastModified, externalInfo }
  ofValue_toValue _ := rfl
  toValue_ofValue _ := rfl

/-- One step of the process. -/
structure Task where
  /-- The id of the task. -/
  id : String
  kind : String
  /-- Its name for display. -/
  displayName : String
  /-- What it does. -/
  description : String
  /-- How far it has come, in words. -/
  status : String
  /-- How far it has come, in percent. -/
  progress : Int32
  /-- The task it is a part of. -/
  parent : Option String
  deriving DecidableEq

/-- The wire form of `Task`. -/
def Task.fields : Fields :=
  .cons "id" false .text <| .cons "type" false .text <| .cons "displayName" false .text <|
  .cons "description" false .text <| .cons "status" false .text <|
  .cons "progress" false .integer32 <| .cons "parent" true (.optional .text) .nil

instance : Payload Task where
  shape := .record Task.fields
  toValue t := (t.id, t.kind, t.displayName, t.description, t.status, t.progress, t.parent, ())
  ofValue
    | (id, kind, displayName, description, status, progress, parent, ()) =>
      { id, kind, displayName, description, status, progress, parent }
  ofValue_toValue _ := rfl
  toValue_ofValue _ := rfl

/-- Why the process stopped. -/
structure Failure where
  /-- The id of the failure. -/
  id : String
  code : String
  /-- Its name for display. -/
  displayName : String
  /-- What happened. -/
  description : String
  /-- Further information. -/
  externalInfo : Option String
  deriving DecidableEq

/-- The wire form of `Failure`. -/
def Failure.fields : Fields :=
  .cons "id" false .text <| .cons "code" false .text <| .cons "displayName" false .text <|
  .cons "description" false .text <| .cons "externalInfo" true (.optional .text) .nil

instance : Payload Failure where
  shape := .record Failure.fields
  toValue f := (f.id, f.code, f.displayName, f.description, f.externalInfo, ())
  ofValue
    | (id, code, displayName, description, externalInfo, ()) =>
      { id, code, displayName, description, externalInfo }
  ofValue_toValue _ := rfl
  toValue_ofValue _ := rfl

/-- Something that can be done with the process. -/
structure Action where
  /-- The id of the action. -/
  id : String
  title : String
  /-- What it does. -/
  description : String
  deriving DecidableEq

/-- The wire form of `Action`. -/
def Action.fields : Fields :=
  .cons "id" false .text <| .cons "title" false .text <| .cons "description" false .text .nil

instance : Payload Action where
  shape := .record Action.fields
  toValue a := (a.id, a.title, a.description, ())
  ofValue | (id, title, description, ()) => { id, title, description }
  ofValue_toValue _ := rfl
  toValue_ofValue _ := rfl

end DeployService.Payload.LongRunning
