import DocumentStore.Bulk.Processor
import DocumentStore.Mapping
import DocumentStore.Search.Request
import DocumentStore.Settings
import DocumentStore.Text.Occurrence

/-! A client of a document store: it finds out the version of the store, creates and removes indices, and
writes, reads and searches documents, one at a time or through the bulk processor. -/

namespace DocumentStore

structure Client where
  settings : Settings
  mappings : Option MappingSource
  policy : Bulk.RetryPolicy
  listening : Bool
  cluster : Cluster
  processor : Option Bulk.Processor := none
  majorVersion : Option String := none
  closed : Bool := false
  /-- What the queries of searches are written with. -/
  library : QueryLibrary := .standard

/-- The part of a version before its first dot. -/
def majorVersionOf (version : String) : String := String.ofList (version.toList.takeWhile (· ≠ '.'))

namespace Client

/-- The cluster that the settings name. -/
def clusterOf (s : Settings) (world : World) (read : Node.AddressReader := Node.Address.parse) :
    Except Failure Cluster := do
  let nodes ← Cluster.nodeList s.nodes
  Cluster.build nodes (← s.usableConnection) ⟨s.credentials, s.sslVerification, s.caCerts⟩ none world read

/-- The retry policy that the settings name. -/
def policyOf (s : Settings) : Bulk.RetryPolicy :=
  { maxRetries := s.bulkMaxRetries, retryDelay := s.bulkRetryDelay }

/-- Asks the cluster, and gives the text of its answer. -/
def call (method : String) (path : Option Text) (body : Cluster.Body) (params : Cluster.Params) :
    Effect Client String :=
  .onPart (·.cluster) (fun cluster c => { c with cluster }) (.ofStep (·.call method path body params))

/-- Asks the cluster at a path that may be any value. -/
def callAt (method : String) (path : Json) (body : Cluster.Body) : Effect Client String := do
  call method (← Effect.ofExcept (Cluster.pathOf path)) body []

/-- Asks the cluster for whatever the parts of a request say. -/
def request (method path : Json) (body : Cluster.Body) (params : Json) : Effect Client String :=
  .onPart (·.cluster) (fun cluster c => { c with cluster }) (.ofStep (·.request method path body params))

/-- Runs one computation, and another in its place if the cluster says that there is no such thing. -/
def orMissing {α : Type} (e : Effect Client α) (missing : ResponseError → Effect Client α) : Effect Client α := do
  match ← e.outcome with
  | .error (.dispatch (.response r)) =>
    if r.blame = .request && r.isNotFound then missing r else throw (.dispatch (.response r))
  | r => .ofExcept r

def parse (answer : String) : Effect Client Json := .ofExcept (Document.parse (.text answer))

/-! ### The cluster and its indices -/

def version : Effect Client String := do
  let answer ← call "GET" none .none []
  .ofExcept (Text.toString <$> (← parse answer).readText "$.version.number")

/-- Whether there is something at a path. -/
def existsAt (method : String) (path : Json) : Effect Client Bool :=
  orMissing (do discard (callAt method path .none); return true) fun _ => return false

def indexExists (index : Json) : Effect Client Bool := existsAt "GET" index

def pipelineExists (name : Json) : Effect Client Bool :=
  existsAt "GET" (.str ("_ingest/pipeline/" ++ name.shown))

/-- How long to wait for a new index by default. -/
def healthTimeout : String := "5s"

/-- Waits until the primary shards of an index are there, and gives the health that the cluster reports. -/
def waitForHealth (index timeout : Json) : Effect Client Json := do
  let params := [(.str "wait_for_status", .str "yellow"), (.str "timeout", timeout)]
  let answer ← call "GET" (some ("_cluster/health/" ++ index.shown)) .none params
  .ofExcept ((← parse answer).readOptional "$.status" .null (.one .str))

/-- The error type by which the cluster says that an index is there already. -/
def alreadyExists : String := "resource_already_exists_exception"

def saysAlreadyExists (r : ResponseError) : Bool :=
  let errorType := (r.errorType.map Text.toString).getD ""
  r.blame = .request && Text.occursIn alreadyExists.toList errorType.toList

/-- Creates an index and waits for it. An index that is there already is a failure, or none if `lenient`; null
settings are empty ones. -/
def createIndex (index : Json) (lenient : Bool) (settings : Json) : Effect Client Bool := do
  let body := match settings with
    | .null => .raw (.text "{}")
    | v => .ofJson v
  match ← (callAt "PUT" index body).outcome with
  | .ok _ => do
    discard (waitForHealth index (.str healthTimeout))
    return true
  | .error (.dispatch (.response r)) =>
    if !saysAlreadyExists r then throw (.dispatch (.response r))
    else if lenient then return false
    else throw (.client (.indexExists index r))
  | .error f => throw f

/-- Makes recent writes visible, in one index or in all of them. -/
def refresh (index : Json) : Effect Client Unit := do
  let path := if index.truthy then index.shown ++ "/_refresh" else "_refresh"
  let answer ← call "POST" (some path) .none []
  let failed ← Effect.ofExcept ((← parse answer).readInt "$._shards.failed")
  if 0 < failed then throw (.client (.notRefreshed index answer))

/-- Deletes an index, if it is there. -/
def deleteIndex (index : Json) : Effect Client Unit := do
  let answer ← orMissing (some <$> callAt "DELETE" index .none) fun _ => return none
  match answer with
  | none => return
  | some answer => do
    let document ← parse answer
    if !(← Effect.ofExcept (document.readBool "$.acknowledged")) then
      let reason ← Effect.ofExcept (document.readOptional "$.error.reason" .null .any)
      throw (.client (.indexNotDeleted index reason))

/-- The names of the mappings of the two indices. -/
def documentMapping : String := "_settings"

def folderMapping : String := "_settings_folder"

def createFromMapping (mapping : String) (index : Json) : Effect Client Unit := do
  let c ← getThe Client
  match c.majorVersion with
  | none => throw (.client .versionUnknown)
  | some version =>
    match c.mappings with
    | none => throw (.client (.noMappings mapping))
    | some source => do
      discard (createIndex index true (← Effect.ofExcept (source.read (.str version) (.str mapping))))

/-- Creates an index from its mapping, or without one where the store is to find the mapping out itself. -/
def createConfigured (mapped : Bool) (mapping : String) (index : Json) : Effect Client Unit := do
  if mapped then createFromMapping mapping index else discard (createIndex index true .null)

/-- Creates the indices of the settings, the one for documents first. -/
def createIndices : Effect Client Unit := do
  let s := (← getThe Client).settings
  if !s.index.truthy then throw (.settings .noIndex)
  let inner := s.addAsInnerObject.truthy && (s.jsonSupport.truthy || s.xmlSupport.truthy)
  createConfigured (!inner) documentMapping s.index
  createConfigured s.indexFolders.truthy folderMapping s.indexFolder

/-! ### The life of a client -/

/-- Finds out the version of the store, checks the pipeline, and starts the bulk processor. A client that is
started already is left as it is. -/
def start : Effect Client Unit := do
  let c ← getThe Client
  if c.processor.isSome then return
  let version ← version
  modifyThe Client fun c => { c with majorVersion := some (majorVersionOf version) }
  if c.settings.pipeline.truthy then
    if !(← pipelineExists c.settings.pipeline) then throw (.client (.pipelineMissing c.settings.pipeline))
  let now := (← getThe Client).cluster.world.clock
  let interval := match c.settings.flushInterval with
    | none => .null
    | some q => q.toJson
  let p ← Effect.ofExcept (Bulk.Processor.build c.settings.bulkSize.toJson interval c.policy c.listening now)
  let (r, w) := Bulk.Writer.start.runOn ⟨p, (← getThe Client).cluster⟩
  modifyThe Client fun c => { c with processor := some w.processor, cluster := w.cluster }
  Effect.ofExcept r

/-- A computation on the bulk processor, which only a started client has. -/
def onProcessor {α : Type} (e : Effect Bulk.Writer α) : Effect Client α := do
  let c ← getThe Client
  match c.processor with
  | none => throw (.client .notStarted)
  | some p => do
    let (r, w) := e.runOn ⟨p, c.cluster⟩
    set { c with processor := some w.processor, cluster := w.cluster }
    Effect.ofExcept r

def closeCluster : Effect Client Unit := modifyThe Client fun c => { c with cluster := c.cluster.close }

/-- Submits what is left and closes the connections. Only the first time does anything. -/
def close : Effect Client Unit := do
  let c ← getThe Client
  if c.closed then return
  modifyThe Client fun c => { c with closed := true }
  let last := match c.processor with
    | some _ => discard (onProcessor (Bulk.Writer.close .null))
    | none => return
  last.andFinally closeCluster

/-! ### Documents -/

/-- The path of a document. -/
def documentPath (index id : Json) : Text := index.shown ++ "/_doc/" ++ id.shown

/-- Queues a document for the next batch. -/
def index (index id body pipeline : Json) : Effect Client Unit :=
  onProcessor (Bulk.Writer.add ⟨index, id, .index body pipeline⟩)

/-- Queues a deletion for the next batch. -/
def delete (index id : Json) : Effect Client Unit := onProcessor do
  Bulk.Writer.add (← Effect.ofExcept (Bulk.Operation.validate ⟨index, id, .delete⟩))

/-- Writes a document at once, and gives the text of the answer. -/
def indexSingle (index id : Json) (document : Cluster.Body) (pipeline : Json) : Effect Client String :=
  let params := if pipeline.truthy then [(.str "pipeline", pipeline)] else []
  call "PUT" (some (documentPath index id)) document params

/-- Deletes a document at once. -/
def deleteSingle (index id : Json) : Effect Client Unit := do
  let answer ← orMissing (call "DELETE" (some (documentPath index id)) .none []) fun r =>
    throw (.client (.documentMissing index id r))
  let result ← Effect.ofExcept ((← parse answer).readText "$.result")
  if result ≠ "deleted" then throw (.client (.documentNotDeleted index id answer))

/-- Reads a document. -/
def read (index id : Json) : Effect Client SearchHit := do
  let answer ← orMissing (call "GET" (some (documentPath index id)) .none []) fun r =>
    throw (.client (.documentMissing index id r))
  .ofExcept (SearchHit.read (← parse answer) "$")

/-- Whether there is a document. -/
def documentExists (index id : Json) : Effect Client Bool := existsAt "HEAD" (.str (documentPath index id))

/-! ### Searches and raw requests -/

def search (request : SearchRequest) : Effect Client SearchResponse := do
  let path := if request.index.truthy then request.index.shown ++ "/_search" else "_search"
  let body ← Effect.ofExcept (request.body (← getThe Client).library)
  let answer ← orMissing (call "POST" (some path) (.document body) [(.str "version", .bool true)]) fun r =>
    throw (.client (.indexMissing request.index r))
  .ofExcept (SearchResponse.parse answer request.effectiveSize)

/-- Submits a body of many operations as it is: a text, or what has members. -/
def bulk (operations : Json) : Effect Client String :=
  if operations.elements?.isSome then call "POST" (some "_bulk") (.ofJson operations) []
  else throw (.misuse .wrongKind)

/-- Submits what is queued now. -/
def flush : Effect Client (Option Bulk.Result) := onProcessor Bulk.Writer.flush

end Client

end DocumentStore
