/-
# Launching

What a server has to know to serve a service: its title and version, the paths that it documents,
the address to listen at, and the files with which it ends encrypted connections itself.
-/
import Portcullis.Service

namespace Portcullis

/-- The options of a server. -/
structure Launch where
  title : Text
  paths : List Text
  host : Text
  port : Int
  transport : Members

namespace Launch

/-- The version of the service. -/
def version : Text := "0.1.0"

/-- A client certificate is required. -/
def certificateRequired : Int := 2

/-- The options of encrypted connections: none unless there are both a key and a certificate.  With
an authority every client has to show a certificate of it. -/
def transportOptions (t : TransportSettings) : Members :=
  match t.serverKey, t.serverCertificate with
  | some key, some certificate =>
    let always : Members := [("ssl_keyfile", .text key), ("ssl_certfile", .text certificate)]
    match t.clientAuthority with
    | none => always
    | some authority => always ++ Members.setAll []
        [("ssl_ca_certs", .text authority), ("ssl_cert_reqs", .int certificateRequired)]
  | _, _ => []

/-- Inserts a path among sorted ones unless it is there. -/
def insertPath (path : Text) : List Text → List Text
  | [] => [path]
  | p :: rest =>
    if p = path then p :: rest
    else if Text.le path p then path :: p :: rest
    else p :: insertPath path rest

/-- Whether a route is documented; the pages of the documentation are not. -/
def isDocumented (route : Route) : Bool :=
  match route.target with
  | .page _ => false
  | _ => true

/-- The paths of the documented ones of routes, each once, in the order of their code points. -/
def pathsOf (routes : List Route) : List Text :=
  (routes.filter isDocumented).foldr (fun route paths => insertPath route.path paths) []

/-- The launch of a service. -/
def ofService (s : Service) : Launch where
  title := s.settings.serviceName
  paths := pathsOf s.routes
  host := s.settings.host
  port := s.settings.port
  transport := transportOptions s.settings.transport

/-- The launch that settings and key files describe, of a service without endpoints. -/
def ofSettings (files : Trust.Files) (settings : Settings) : Attempt Launch := do
  let service ← Service.ofSettings files settings []
  return ofService service

/-- The options as an object. -/
def toJson (l : Launch) : Json :=
  let always : Members := [
    ("title", .text l.title), ("version", .text version), ("paths", .texts l.paths),
    ("host", .text l.host), ("port", .int l.port), ("log_config", .null)]
  .object (always ++ l.transport)

end Launch

end Portcullis
