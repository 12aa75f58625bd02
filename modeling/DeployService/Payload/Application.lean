import DeployService.Payload.Codec

/-!
# Applications, operations and files

The payloads of the configuration, operations and lookup services: deployed multi-target
applications (`Mta`) with their modules, the operations that deploy them, the logs that operations
write, and uploaded files. Every member has a default, so a partial answer is still read.
-/

namespace DeployService.Payload

/-- What identifies a deployed multi-target application. -/
structure MtaMetadata where
  /-- The application's id. -/
  id : String
  /-- The deployed version. -/
  version : String
  /-- The namespace it was deployed with. -/
  namespaceName : Option String
  deriving DecidableEq

/-- The wire form of `MtaMetadata`. -/
def MtaMetadata.fields : Fields :=
  .cons "id" false .text <| .cons "version" false .text <|
  .cons "namespace" true (.optional .text) .nil

instance : Payload MtaMetadata where
  shape := .record MtaMetadata.fields
  toValue m := (m.id, m.version, m.namespaceName, ())
  ofValue | (id, version, namespaceName, ()) => { id, version, namespaceName }
  ofValue_toValue _ := rfl
  toValue_ofValue _ := rfl

/-- A deployed module and the application that runs it. -/
structure Module where
  moduleName : String
  /-- The name of the application that runs the module. -/
  appName : String
  /-- When the application was created. -/
  createdOn : Option String
  /-- When the application was last updated. -/
  updatedOn : Option String
  /-- The names under which the module provides dependencies. -/
  providedNames : List String
  /-- The services bound to the application. -/
  services : List String
  /-- The addresses of the application. -/
  uris : List String
  deriving DecidableEq

/-- The wire form of `Module`. -/
def Module.fields : Fields :=
  .cons "moduleName" false .text <| .cons "appName" false .text <|
  .cons "createdOn" true (.optional .text) <| .cons "updatedOn" true (.optional .text) <|
  .cons "providedDendencyNames" false (.list .text) <| .cons "services" false (.list .text) <|
  .cons "uris" false (.list .text) .nil

instance : Payload Module where
  shape := .record Module.fields
  toValue m :=
    (m.moduleName, m.appName, m.createdOn, m.updatedOn, m.providedNames, m.services, m.uris, ())
  ofValue
    | (moduleName, appName, createdOn, updatedOn, providedNames, services, uris, ()) =>
      { moduleName, appName, createdOn, updatedOn, providedNames, services, uris }
  ofValue_toValue _ := rfl
  toValue_ofValue _ := rfl

/-- A deployed multi-target application. -/
structure Mta where
  /-- What identifies the application. -/
  metadata : MtaMetadata
  modules : List Module
  /-- The names of the service instances that it owns. -/
  services : List String
  deriving DecidableEq

/-- The wire form of `Mta`. -/
def Mta.fields : Fields :=
  .cons "metadata" false (shape MtaMetadata) <| .cons "modules" false (shape (List Module)) <|
  .cons "services" false (.list .text) .nil

instance : Payload Mta where
  shape := .record Mta.fields
  toValue m := (toValue m.metadata, toValue m.modules, m.services, ())
  ofValue | (metadata, modules, services, ()) => ⟨ofValue metadata, ofValue modules, services⟩
  ofValue_toValue m := by
    show Mta.mk _ _ _ = m
    rw [ofValue_toValue, ofValue_toValue]
  toValue_ofValue
    | (metadata, modules, services, ()) => by
      show ((_, _, _, ()) : Fields.Values Mta.fields) = _
      rw [toValue_ofValue, toValue_ofValue]

/-- A progress message of an operation. -/
structure Message where
  /-- The number of the message. -/
  id : Int64
  text : String
  /-- Its kind, such as information or error. -/
  kind : String
  deriving DecidableEq

/-- The wire form of `Message`. -/
def Message.fields : Fields :=
  .cons "id" false .integer64 <| .cons "text" false .text <| .cons "type" false .text .nil

instance : Payload Message where
  shape := .record Message.fields
  toValue m := (m.id, m.text, m.kind, ())
  ofValue | (id, text, kind, ()) => { id, text, kind }
  ofValue_toValue _ := rfl
  toValue_ofValue _ := rfl

/-- A process that deploys or undeploys an application. -/
structure Operation where
  processId : Option String
  /-- The kind of the process. -/
  processType : Option String
  /-- When it was started. -/
  startedAt : Option String
  /-- The space it runs in. -/
  spaceId : Option String
  /-- The application it works on. -/
  mtaId : Option String
  /-- The namespace of that application. -/
  namespaceName : Option String
  /-- The user who started it. -/
  user : Option String
  /-- It holds the lock on the application. -/
  acquiredLock : Bool
  /-- Its state: `RUNNING`, `FINISHED`, `ERROR`, `ABORTED` or `ACTION_REQUIRED`. -/
  state : Option String
  /-- Its progress messages. -/
  messages : List Message
  /-- Its parameters, sorted by name. -/
  parameters : List (String × Json)

/-- The wire form of `Operation`. -/
def Operation.fields : Fields :=
  .cons "processId" true (.optional .text) <| .cons "processType" true (.optional .text) <|
  .cons "startedAt" true (.optional .text) <| .cons "spaceId" true (.optional .text) <|
  .cons "mtaId" true (.optional .text) <| .cons "namespace" true (.optional .text) <|
  .cons "user" true (.optional .text) <| .cons "acquiredLock" false .flag <|
  .cons "state" true (.optional .text) <| .cons "messages" true (shape (List Message)) <|
  .cons "parameters" true .dictionary .nil

instance : Payload Operation where
  shape := .record Operation.fields
  toValue o :=
    (o.processId, o.processType, o.startedAt, o.spaceId, o.mtaId, o.namespaceName, o.user,
      o.acquiredLock, o.state, toValue o.messages, o.parameters, ())
  ofValue
    | (processId, processType, startedAt, spaceId, mtaId, namespaceName, user, acquiredLock, state,
        messages, parameters, ()) =>
      ⟨processId, processType, startedAt, spaceId, mtaId, namespaceName, user, acquiredLock, state,
        ofValue messages, parameters⟩
  ofValue_toValue o := by
    show Operation.mk _ _ _ _ _ _ _ _ _ _ _ = o
    rw [ofValue_toValue]
  toValue_ofValue
    | (_, _, _, _, _, _, _, _, _, messages, _, ()) => by
      show ((_, _, _, _, _, _, _, _, _, _, _, ()) : Fields.Values Operation.fields) = _
      rw [toValue_ofValue]

/-- A log file that an operation wrote. -/
structure LogFile where
  /-- The id of the log. -/
  id : String
  /-- When it was last modified. -/
  lastModified : Option String
  /-- What it holds. -/
  content : Option String
  /-- Its size in bytes. -/
  size : Int64
  /-- Its name for display. -/
  displayName : Option String
  /-- What it is about. -/
  description : Option String
  /-- Further information. -/
  externalInfo : Option String
  deriving DecidableEq

/-- The wire form of `LogFile`. -/
def LogFile.fields : Fields :=
  .cons "id" false .text <| .cons "lastModified" true (.optional .text) <|
  .cons "content" true (.optional .text) <| .cons "size" false .integer64 <|
  .cons "displayName" true (.optional .text) <| .cons "description" true (.optional .text) <|
  .cons "externalInfo" true (.optional .text) .nil

instance : Payload LogFile where
  shape := .record LogFile.fields
  toValue l :=
    (l.id, l.lastModified, l.content, l.size, l.displayName, l.description, l.externalInfo, ())
  ofValue
    | (id, lastModified, content, size, displayName, description, externalInfo, ()) =>
      { id, lastModified, content, size, displayName, description, externalInfo }
  ofValue_toValue _ := rfl
  toValue_ofValue _ := rfl

/-- An uploaded archive or extension descriptor. -/
structure FileMetadata where
  /-- The id of the file. -/
  id : String
  name : String
  /-- Its size in bytes. -/
  size : Int64
  /-- The digest of its content. -/
  digest : String
  /-- How the digest was computed. -/
  digestAlgorithm : String
  /-- The space it was uploaded to. -/
  space : String
  /-- The namespace it belongs to. -/
  namespaceName : Option String
  deriving DecidableEq

/-- The wire form of `FileMetadata`. -/
def FileMetadata.fields : Fields :=
  .cons "id" false .text <| .cons "name" false .text <| .cons "size" false .integer64 <|
  .cons "digest" false .text <| .cons "digestAlgorithm" false .text <|
  .cons "space" false .text <| .cons "namespace" true (.optional .text) .nil

instance : Payload FileMetadata where
  shape := .record FileMetadata.fields
  toValue f := (f.id, f.name, f.size, f.digest, f.digestAlgorithm, f.space, f.namespaceName, ())
  ofValue
    | (id, name, size, digest, digestAlgorithm, space, namespaceName, ()) =>
      { id, name, size, digest, digestAlgorithm, space, namespaceName }
  ofValue_toValue _ := rfl
  toValue_ofValue _ := rfl

/-- What the service says about itself. -/
structure ServiceInfo where
  /-- The version of the service's interface. -/
  apiVersion : Int64
  deriving DecidableEq

/-- The wire form of `ServiceInfo`. -/
def ServiceInfo.fields : Fields := .cons "api_version" false .integer64 .nil

instance : Payload ServiceInfo where
  shape := .record ServiceInfo.fields
  toValue i := (i.apiVersion, ())
  ofValue | (apiVersion, ()) => { apiVersion }
  ofValue_toValue _ := rfl
  toValue_ofValue _ := rfl

/-- Everything that is deployed in a space. -/
structure Components where
  /-- The multi-target applications. -/
  mtas : List Mta
  /-- The applications that belong to none of them. -/
  standaloneApps : List String
  deriving DecidableEq

/-- The wire form of `Components`. -/
def Components.fields : Fields :=
  .cons "mtas" false (shape (List Mta)) <| .cons "standaloneApps" false (.list .text) .nil

instance : Payload Components where
  shape := .record Components.fields
  toValue c := (toValue c.mtas, c.standaloneApps, ())
  ofValue | (mtas, standaloneApps, ()) => ⟨ofValue mtas, standaloneApps⟩
  ofValue_toValue c := by
    show Components.mk _ _ = c
    rw [ofValue_toValue]
  toValue_ofValue
    | (mtas, standaloneApps, ()) => by
      show ((_, _, ()) : Fields.Values Components.fields) = _
      rw [toValue_ofValue]

end DeployService.Payload
