import DocumentStore.Node.Address
import DocumentStore.Node.Connection
import DocumentStore.Node.Credentials

/-! A node as it is talked to: its address, and what every request to it carries. -/

namespace DocumentStore.Node

structure Options where
  credentials : Credentials := {}
  verifyCerts : Json := .bool true
  caCerts : Json := .null

structure Config where
  endpoint : String
  address : Address
  authorization : Option Text
  requestTimeout : Quantity
  httpCompress : Json
  verifyCerts : Json
  caCerts : Json
  showWarnings : Bool

namespace Config

def userAgent : Text := "elasticrelay-rest-client/0.1.0"

def jsonMediaType : Text := "application/json"

/-- The headers of every request to the node, by name. -/
def headers (c : Config) : List (String × Text) :=
  [("accept", jsonMediaType)] ++ (c.authorization.map (("authorization", ·))).toList ++
    [("content-type", jsonMediaType), ("user-agent", userAgent)]

/-- The node at an endpoint. Credentials that are given win over those in its address, and only a node with a
secure scheme is told about certificates. -/
def build (connection : Connection) (options : Options) (authorization : Option Text) (endpoint : String)
    (read : AddressReader := Address.parse) : Except Failure Config :=
  match read endpoint with
  | .error p => .error (.connection (.address endpoint p))
  | .ok address =>
    let secure := address.scheme = "https"
    let own := address.user.map fun (user, password) => (basicAuthorization user password : Text)
    .ok {
      endpoint, address
      authorization := authorization.or own
      requestTimeout := connection.requestTimeout
      httpCompress := connection.httpCompress
      verifyCerts := if secure then options.verifyCerts else .bool true
      caCerts := if secure && options.caCerts.truthy then options.caCerts else .null
      showWarnings := !(secure && !options.verifyCerts.truthy) }

end Config

end DocumentStore.Node
