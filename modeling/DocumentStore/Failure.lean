import DocumentStore.Json.Display
import DocumentStore.Json.Fault
import DocumentStore.Quantity

/-! Every way in which an operation of the library can fail, by cause, and the message of each. The families
follow what a caller can do about a failure: read the answer differently, ask again, mend the settings. -/

namespace DocumentStore

/-- The answer does not have the form that the reader needs. -/
inductive ReadFailure where
  | malformed (f : Json.Fault)
  | pathNotFound (path : Text)
  | kindMismatch (path : Text) (expected : Json.Expectation) (actual : Json.Kind)
  | itemCount (answered submitted : Nat)

def ReadFailure.message : ReadFailure → String
  | .malformed f => "无法解析 JSON 响应: " ++ f.message
  | .pathNotFound path => "路径 '" ++ path.toString ++ "' 不存在"
  | .kindMismatch path expected actual =>
    "路径 '" ++ path.toString ++ "' 期望 " ++ expected.name ++ "，实际为 " ++ actual.name
  | .itemCount answered submitted =>
    "批量响应条目数 " ++ toString answered ++ " 与请求操作数 " ++ toString submitted ++ " 不一致"

inductive TransportKind where
  | connection | tls | timeout | transport | serialization | sniffing
  deriving DecidableEq, Repr

/-- A request that got no answer. -/
structure TransportError where
  kind : TransportKind
  message : String
  causedBy : Option String
  deriving DecidableEq, Repr

def TransportError.describe (e : TransportError) : String :=
  let because (plain withCause : String) := match e.causedBy with
    | none => plain
    | some cause => withCause ++ " caused by: OSError(" ++ cause ++ ")"
  match e.kind with
  | .connection => because "Connection error" "Connection error"
  | .tls => because "TLS error" "TLS error"
  | .timeout => because "Connection timed out" "Connection timeout"
  | .transport | .serialization | .sniffing => e.message

/-- Whose fault an answer outside 2xx is: the request's (4xx), the node's (5xx), or neither's. -/
inductive Blame where
  | request | node | other
  deriving DecidableEq, Repr

/-- An answer whose status is not 2xx, and the request that it answers. -/
structure ResponseError where
  blame : Blame
  status : Json
  body : Json
  method : Json
  url : Json

def ResponseError.message (r : ResponseError) : String :=
  r.method.display ++ " " ++ r.url.display ++ " 返回 " ++ r.status.display ++ ": " ++ r.body.display

def ResponseError.isNotFound (r : ResponseError) : Bool := r.status.sameScalar (.int 404)

/-- A request that the cluster did not carry out. -/
inductive DispatchFailure where
  | transport (method url node : String) (error : TransportError)
  | response (r : ResponseError)

def DispatchFailure.message : DispatchFailure → String
  | .transport method url _ error => method ++ " " ++ url ++ " 传输失败: " ++ error.describe
  | .response r => r.message

inductive AddressProblem where
  | unparsable
  | incomplete
  deriving DecidableEq, Repr

/-- The cluster cannot be reached as configured. -/
inductive ConnectionFailure where
  | noNodes
  | address (url : String) (p : AddressProblem)
  | below (field : String) (least : Nat) (given : Quantity)

def below (field : String) (least : Nat) (given : Quantity) : String :=
  field ++ " 必须 >= " ++ toString least ++ "，当前值: " ++ given.display

def notPositive (field : String) (given : Quantity) : String :=
  field ++ " 必须 > 0 或为 None，当前值: " ++ given.display

def AddressProblem.message (url : String) : AddressProblem → String
  | .unparsable => "Could not parse URL " ++ (Text.ofString url).quoted
  | .incomplete =>
    "URL must include a 'scheme', 'host', and 'port' component (ie 'https://localhost:9200')"

def ConnectionFailure.message : ConnectionFailure → String
  | .noNodes => "nodes 不能为空，请提供至少一个节点地址"
  | .address url p => "节点地址 '" ++ url ++ "' 不合法: " ++ p.message url
  | .below field least given => DocumentStore.below field least given

/-- The settings contradict themselves or leave out what is needed. -/
inductive SettingsFailure where
  | noNodes
  | below (field : String) (least : Nat) (given : Quantity)
  | notPositive (field : String) (given : Quantity)
  | halfCredentials
  | unknownKeys (keys : List Text)
  | unknownConnectionKey (key : Text)
  | connectionIncomparable (k : Json.Kind)
  | noIndex

def SettingsFailure.message : SettingsFailure → String
  | .noNodes => "nodes 不能为空，请提供至少一个节点地址"
  | .below field least given => DocumentStore.below field least given
  | .notPositive field given => DocumentStore.notPositive field given
  | .halfCredentials => "username 和 password 必须同时提供"
  | .unknownKeys keys => "未知的配置项: " ++ ", ".intercalate (keys.map Text.toString)
  | .unknownConnectionKey key =>
    let complaint := if key = "self" then "multiple values for argument '" else "an unexpected keyword argument '"
    "connection 配置不合法: ConnectionConfig.__init__() got " ++ complaint ++ key.toString ++ "'"
  | .connectionIncomparable k =>
    "connection 配置不合法: '<' not supported between instances of '" ++ k.name ++ "' and 'int'"
  | .noIndex => "未配置索引名称，无法创建索引"

/-- An operation or a processor that cannot be built as asked. -/
inductive BulkInvalid where
  | documentNotJson (index id : Json) (f : Json.Fault)
  | deleteWithoutId (index : Json)
  | below (field : String) (least : Nat) (given : Quantity)
  | notPositive (field : String) (given : Quantity)

def BulkInvalid.message : BulkInvalid → String
  | .documentNotJson index id f => "文档 " ++ index.display ++ "/" ++ id.display ++ " 不是合法的 JSON: " ++ f.message
  | .deleteWithoutId index => "删除索引 '" ++ index.display ++ "' 中的文档需要提供文档ID"
  | .below field least given => DocumentStore.below field least given
  | .notPositive field given => DocumentStore.notPositive field given

/-- What can abandon a whole batch: the cluster did not take it, or its answer cannot be read. -/
inductive BatchCause where
  | dispatch (f : DispatchFailure)
  | read (f : ReadFailure)

def BatchCause.message : BatchCause → String
  | .dispatch f => f.message
  | .read f => f.message

inductive BulkFailure where
  | invalid (v : BulkInvalid)
  | closedToAdd (index id : Json)
  | closedToStart
  | batch (number : Nat) (cause : BatchCause)

def BulkFailure.message : BulkFailure → String
  | .invalid v => v.message
  | .closedToAdd index id => "批量处理器已关闭，无法添加操作: " ++ index.display ++ "/" ++ id.display
  | .closedToStart => "批量处理器已关闭，无法启动"
  | .batch number cause => "批次 " ++ toString number ++ " 提交失败: " ++ cause.message

/-- The cluster answered, and the answer means that the operation did not do what was asked. -/
inductive ClientFailure where
  | notStarted
  | versionUnknown
  | indexExists (index : Json) (cause : ResponseError)
  | indexMissing (index : Json) (cause : ResponseError)
  | documentMissing (index id : Json) (cause : ResponseError)
  | pipelineMissing (name : Json)
  | notRefreshed (index : Json) (response : String)
  | indexNotDeleted (index reason : Json)
  | documentNotDeleted (index id : Json) (response : String)
  | mappingMissing (version name : Json) (path : Option String)
  | noMappings (name : String)

def ClientFailure.message : ClientFailure → String
  | .notStarted => "客户端尚未启动，请先调用 start()"
  | .versionUnknown => "客户端尚未启动，无法确定映射版本"
  | .indexExists index _ => "索引 '" ++ index.display ++ "' 已存在"
  | .indexMissing index _ => "索引 " ++ index.display ++ " 不存在"
  | .documentMissing index id _ => "文档 " ++ index.display ++ "/" ++ id.display ++ " 不存在"
  | .pipelineMissing name => "配置了 pipeline '" ++ name.display ++ "'，但它不存在"
  | .notRefreshed index response => "无法刷新索引 " ++ index.display ++ ": " ++ response
  | .indexNotDeleted index reason => "无法删除索引 " ++ index.display ++ ": " ++ reason.display
  | .documentNotDeleted index id response =>
    "无法删除文档 " ++ index.display ++ "/" ++ id.display ++ ": " ++ response
  | .mappingMissing version name none => "找不到版本 " ++ version.display ++ " 的映射 '" ++ name.display ++ "'"
  | .mappingMissing version name (some path) =>
    "找不到版本 " ++ version.display ++ " 的映射 '" ++ name.display ++ "': " ++ path
  | .noMappings name => "未配置映射来源，无法读取映射 '" ++ name ++ "'"

/-- A value that an operation cannot work with at all, outside the failures that it declares. -/
inductive Misuse where
  /-- The kind of a value does not fit the operation on it. -/
  | wrongKind
  /-- A member is asked of a value that has no members. -/
  | noMember
  /-- An object has no such key. -/
  | noEntry
  /-- No node is left to choose from. -/
  | noCandidate
  /-- A number leaves the range of binary64. -/
  | outOfRange
  /-- Bytes are no UTF-8 text, or a text has no UTF-8 bytes. -/
  | undecodable
  /-- A pause would end before it begins, or its length is no number. -/
  | negativePause
  /-- A path does not follow the grammar of paths. -/
  | badPath (path : Text)
  /-- An index of a path has too many digits. -/
  | overlongIndex (digits : Nat)
  /-- A parameter has another number of members than a key and a value. -/
  | notPair (members : Nat)
  /-- A user name or a password is no text. -/
  | credentialsNotText
  /-- A whole number has too many digits to be written. -/
  | overlongNumber
  /-- A name is too long for any file. -/
  | overlongName

def Misuse.message : Misuse → String
  | .badPath path => "非法的路径表达式: " ++ path.toString
  | .overlongIndex digits => Text.overlongNumeral digits
  | .negativePause => "sleep length must be non-negative"
  | .notPair members =>
    if members < 2 then "not enough values to unpack (expected 2, got " ++ toString members ++ ")"
    else "too many values to unpack (expected 2)"
  | .credentialsNotText => "'basic_auth' must be a 2-tuple of str/bytes (username, password)"
  | .overlongNumber => Text.unwritableNumber
  | _ => ""

inductive Failure where
  | read (f : ReadFailure)
  | dispatch (f : DispatchFailure)
  | connection (f : ConnectionFailure)
  | settings (f : SettingsFailure)
  | unsupportedQuery (kind : String)
  | bulk (f : BulkFailure)
  | client (f : ClientFailure)
  | misuse (m : Misuse)

def Failure.message : Failure → String
  | .read f => f.message
  | .dispatch f => f.message
  | .connection f => f.message
  | .settings f => f.message
  | .unsupportedQuery kind => "查询类型 " ++ kind ++ " 尚未实现"
  | .bulk f => f.message
  | .client f => f.message
  | .misuse m => m.message

/-- A value that has to be a text. -/
def Json.requireText : Json → Except Failure String
  | .str t => .ok t.toString
  | _ => .error (.misuse .noMember)

/-- The fields of a value that has to be an object. -/
def Json.requireFields : Json → Except Failure (List (Text × Json))
  | .obj fields => .ok fields
  | _ => .error (.misuse .wrongKind)

/-- A value that has to count as a number. -/
def Quantity.require (v : Json) : Except Failure Quantity :=
  match Quantity.ofJson? v with
  | some q => .ok q
  | none => .error (.misuse .wrongKind)

/-- A result that has to be in range. -/
def requireInRange {α : Type} : Option α → Except Failure α
  | some x => .ok x
  | none => .error (.misuse .outOfRange)

def Quantity.add (a b : Quantity) : Except Failure Quantity := requireInRange (a.add? b)

def Quantity.sub (a b : Quantity) : Except Failure Quantity := requireInRange (a.sub? b)

/-- A value that has to be spelled out, in a message that somebody may see or not. -/
def Json.spell (v : Json) : Except Failure Unit :=
  if v.isSpellable then .ok () else .error (.misuse .overlongNumber)

/-- A quantity that has to be spelled out. -/
def Quantity.writable (q : Quantity) : Except Failure Quantity := do
  q.toJson.spell
  return q

/-- A complaint about a quantity, which cannot be made where the quantity cannot be spelled out. -/
def Failure.about (f : Failure) (q : Quantity) : Failure := if q.isSpellable then f else .misuse .overlongNumber

/-- A text that has to have UTF-8 bytes. -/
def Text.require (t : Text) : Except Failure String :=
  match t.string? with
  | some s => .ok s
  | none => .error (.misuse .undecodable)

end DocumentStore
