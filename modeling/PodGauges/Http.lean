import PodGauges.Exposition
import PodGauges.Log

/-!
Answers to requests: the exposition of all series, a sign of life, and nothing else.
-/

namespace PodGauges.Http

/-- A request; neither its headers nor its body change the answer. -/
structure Request where
  method : String
  path : String

/-- An answer, with its headers in the order in which they are sent. -/
structure Response where
  status : String
  headers : List (String × String)
  body : String

def contentType (kind : String) : String × String := ("Content-Type", kind)

/-- The methods by which the exposition may be asked for. -/
def allowed : String × String := ("Allow", "OPTIONS,GET")

def plainText (status body : String) : Response :=
  ⟨status, [contentType "text/plain; charset=utf-8"], body⟩

/-- The answer with the exposition, or about the methods by which it may be asked for. -/
def metrics (gauges : Gauges) (method : String) : Response :=
  match method with
  | "GET" =>
    ⟨"200 OK", [contentType "text/plain; version=0.0.4; charset=utf-8"],
      Exposition.text gauges⟩
  | "OPTIONS" => ⟨"200 OK", [allowed], ""⟩
  | _ =>
    ⟨"405 Method Not Allowed", [allowed],
      s!"# HTTP 405 Method Not Allowed: {method}; use OPTIONS or GET\n"⟩

/-- The answer to a request, and what is logged about it. -/
def respond (gauges : Gauges) (request : Request) : Response × List Log.Record :=
  match request.path with
  | "/metrics" => (metrics gauges request.method, [])
  | "/healthz" => (plainText "200 OK" "ok\n", [])
  | path =>
    (plainText "404 Not Found" "not found\n",
      [⟨.warning, .app, s!"not found requested path={path}"⟩])

def accessLog (address requestLine code size : String) : Log.Record :=
  ⟨.debug, .app, s!"{address} - \"{requestLine}\" {code} {size}"⟩

end PodGauges.Http
