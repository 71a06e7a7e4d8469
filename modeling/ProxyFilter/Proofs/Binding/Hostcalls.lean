import ProxyFilter.Binding.Hostcall

/-!
# What the binding relies on

The SDK is relied on for two things. It hands the arguments of a hostcall on unchanged, and of
the failures of the proxy it changes one: a header, a buffer or a property that is not found is
read as nothing. From this alone the proxy that the binding shows to its streams is the lenient
one, for the binding picks the right hostcall and the right arguments for every call. Nothing
is said of failures at which an SDK stops instead of telling them.
-/

namespace ProxyFilter.Binding.Sdk

variable {σ : Type}

/-- The SDK hands the hostcalls of the binding on to a proxy. -/
structure Wraps (sdk : Sdk σ) (host : Host σ) : Prop where
  /-- The map of request headers is read from the proxy. -/
  getMap_request : sdk (.getMap .httpRequestHeaders) = host .requestHeaders
  /-- So is the map of headers that answered a cluster call. -/
  getMap_callResponse : sdk (.getMap .httpCallResponseHeaders) = host .callResponseHeaders
  /-- A request header that is not found is read as nothing. -/
  getMapValue (name : String) :
    sdk (.getMapValue .httpRequestHeaders name) = readMaybe (host (.requestHeader name))
  /-- A header is added to the request. -/
  addMapValue_request (name value : String) :
    sdk (.addMapValue .httpRequestHeaders name value) = host (.addRequestHeader name value)
  /-- A header is added to the response. -/
  addMapValue_response (name value : String) :
    sdk (.addMapValue .httpResponseHeaders name value) = host (.addResponseHeader name value)
  /-- A request body that is not found is read as nothing. -/
  getBuffer_request (start size : Nat) :
    sdk (.getBuffer .httpRequestBody start size) = readMaybe (host (.body .request start size))
  /-- A response body that is not found is read as nothing. -/
  getBuffer_response (start size : Nat) :
    sdk (.getBuffer .httpResponseBody start size) = readMaybe (host (.body .response start size))
  /-- A body of a cluster call that is not found is read as nothing. -/
  getBuffer_callResponse (start size : Nat) :
    sdk (.getBuffer .httpCallResponseBody start size) =
      readMaybe (host (.body .callResponse start size))
  /-- The response body is replaced. -/
  setBuffer_response (start size : Nat) (value : Bytes) :
    sdk (.setBuffer .httpResponseBody start size value) =
      host (.replaceResponseBody start size value)
  /-- A property that is not found is read as nothing. -/
  getProperty (path : List String) : sdk (.getProperty path) = readMaybe (host (.property path))
  /-- The period of the timer is set. -/
  setTickPeriod (milliseconds : Nat) :
    sdk (.setTickPeriod milliseconds) = host (.setTickPeriod milliseconds)
  /-- A function is called with its argument. -/
  callForeignFunction (name : String) (argument : Bytes) :
    sdk (.callForeignFunction name (some argument)) = host (.foreignFunction name argument)
  /-- A cluster call is started with its body. -/
  dispatchHttpCall (cluster : String) (headers : Headers) (body : Bytes) (trailers : Headers)
      (timeout : Nat) :
    sdk (.dispatchHttpCall cluster headers (some body) trailers timeout) =
      host (.dispatch cluster headers body trailers timeout)
  /-- The request is answered with a body. -/
  sendHttpResponse (status : Nat) (headers : Headers) (body : Bytes) :
    sdk (.sendHttpResponse status headers (some body)) = host (.respond status headers body)
  /-- The held request is let go on. -/
  resumeHttpRequest : sdk .resumeHttpRequest = host .resumeRequest

/-- The SDK before a proxy hands the hostcalls of the binding on to it. -/
theorem before_wraps (host : Host σ) : (before host).Wraps host where
  getMap_request := rfl
  getMap_callResponse := rfl
  getMapValue _ := rfl
  addMapValue_request _ _ := rfl
  addMapValue_response _ _ := rfl
  getBuffer_request _ _ := rfl
  getBuffer_response _ _ := rfl
  getBuffer_callResponse _ _ := rfl
  setBuffer_response _ _ _ := rfl
  getProperty _ := rfl
  setTickPeriod _ := rfl
  callForeignFunction _ _ := rfl
  dispatchHttpCall _ _ _ _ _ := rfl
  sendHttpResponse _ _ _ := rfl
  resumeHttpRequest := rfl

/-- Whatever replies as it is asked, but takes what is not found for nothing, reads what may be
missing. -/
theorem readMaybe_eq {α : Type} {soften : Except Status (Option α) → Except Status (Option α)}
    (hfound : ∀ value, soften (.ok value) = .ok value)
    (hfails : ∀ status, soften (.error status) = orNothing (.error status))
    (read : σ → Except Status (Option α) × σ) :
    readMaybe read = fun state => (soften (read state).1, (read state).2) := by
  refine funext fun state => Prod.ext ?_ rfl
  change orNothing (read state).1 = soften (read state).1
  cases (read state).1 with
  | ok value => exact (hfound value).symm
  | error status => exact (hfails status).symm

section

variable (host : Host σ)

/-- A lenient proxy reads a header that may be missing. -/
theorem readMaybe_requestHeader (name : String) :
    readMaybe (host (.requestHeader name)) = host.lenient (.requestHeader name) :=
  readMaybe_eq (fun _ => rfl) (fun status => by cases status <;> rfl) _

/-- A lenient proxy reads a body that may be missing. -/
theorem readMaybe_body (buffer : Buffer) (start size : Nat) :
    readMaybe (host (.body buffer start size)) = host.lenient (.body buffer start size) :=
  readMaybe_eq (fun _ => rfl) (fun status => by cases status <;> rfl) _

/-- A lenient proxy reads a property that may be missing. -/
theorem readMaybe_property (path : List String) :
    readMaybe (host (.property path)) = host.lenient (.property path) :=
  readMaybe_eq (fun _ => rfl) (fun status => by cases status <;> rfl) _

end

/-- The proxy that the binding shows to its streams is the lenient one. -/
theorem Wraps.proxyHost_eq {sdk : Sdk σ} {host : Host σ} (h : sdk.Wraps host) :
    sdk.proxyHost = host.lenient := by
  funext call
  cases call with
  | requestHeaders => exact h.getMap_request
  | requestHeader name => exact (h.getMapValue name).trans (readMaybe_requestHeader host name)
  | addRequestHeader name value => exact h.addMapValue_request name value
  | addResponseHeader name value => exact h.addMapValue_response name value
  | body buffer start size =>
    cases buffer with
    | request => exact (h.getBuffer_request start size).trans (readMaybe_body host ..)
    | response => exact (h.getBuffer_response start size).trans (readMaybe_body host ..)
    | callResponse => exact (h.getBuffer_callResponse start size).trans (readMaybe_body host ..)
  | replaceResponseBody start size value => exact h.setBuffer_response start size value
  | property path => exact (h.getProperty path).trans (readMaybe_property host path)
  | setTickPeriod milliseconds => exact h.setTickPeriod milliseconds
  | foreignFunction name argument => exact h.callForeignFunction name argument
  | dispatch cluster headers body trailers timeout =>
    exact h.dispatchHttpCall cluster headers body trailers timeout
  | callResponseHeaders => exact h.getMap_callResponse
  | respond status headers body => exact h.sendHttpResponse status headers body
  | resumeRequest => exact h.resumeHttpRequest

end ProxyFilter.Binding.Sdk
