import PromptRegistry.Http.Service
import PromptRegistry.Storage.Memory

/-!
# Credentials

A request is redacted by taking out the values of its sensitive headers, whatever the case of their
names. Serving it comes to the same (`serve_redacted`): no answer, no change and no entry of the log
depends on what was taken out.
-/

namespace PromptRegistry.Http

def isSensitive (name : String) : Bool := sensitiveHeaders.any (Text.sameIgnoringCase name)

def redactHeader (h : String × String) : String × String :=
  if isSensitive h.1 then (h.1, "") else h

/-- The headers in their places, the sensitive ones without their values. -/
def Headers.redacted (hs : Headers) : Headers := hs.map redactHeader

def Request.redacted (r : Request) : Request := { r with headers := r.headers.redacted }

-- ---------------------------------------------------------------------------
-- Looking at headers
-- ---------------------------------------------------------------------------

@[simp] theorem redactHeader_name (h : String × String) : (redactHeader h).1 = h.1 := by
  unfold redactHeader
  split <;> rfl

theorem redactHeader_of_not_sensitive (hname : isSensitive h.1 = false) : redactHeader h = h := by
  rw [redactHeader, if_neg (by simp [hname])]

theorem filter_redacted (p : String → Bool) (hs : Headers) :
    (hs.redacted.filter fun h => p h.1) = (hs.filter fun h => p h.1).map redactHeader := by
  simp [Headers.redacted, List.filter_map, Function.comp_def]

theorem first?_redacted (hname : isSensitive name = false) (hs : Headers) :
    hs.redacted.first? name = hs.first? name := by
  rw [Headers.first?, Headers.first?, Headers.redacted, List.find?_map]
  simp only [Function.comp_def, redactHeader_name, Option.map_map]
  refine Option.map_congr fun h hfound => ?_
  have hh : h.1 = name := by simpa using List.find?_some hfound
  rw [redactHeader_of_not_sensitive (hh ▸ hname)]

theorem grouped_redacted (hs : Headers) :
    hs.redacted.grouped = hs.grouped.map redactHeader := by
  have hnames : hs.redacted.map (·.1) = hs.map (·.1) := by
    simp [Headers.redacted, Function.comp_def]
  rw [Headers.grouped, Headers.grouped, hnames, List.map_flatMap]
  refine congrArg (List.flatMap · _) (funext fun name => ?_)
  exact filter_redacted (fun other => decide (other = name)) hs

/-- Of the headers that the log shows, the sensitive ones are shown without their values. -/
theorem describeHeader_redacted (h : String × String)
    (hlogged : loggedHeaders.contains h.1 = true) :
    describeHeader (redactHeader h) = describeHeader h := by
  have hall : ∀ name ∈ loggedHeaders, isSensitive name = sensitiveHeaders.contains name := by
    decide +kernel
  cases hname : isSensitive h.1 with
  | false => rw [redactHeader_of_not_sensitive hname]
  | true =>
    have hhidden := (hall h.1 (List.contains_iff_mem.1 hlogged)).symm.trans hname
    rw [describeHeader, describeHeader, redactHeader_name, if_pos hhidden, if_pos hhidden]

theorem describeHeaders_redacted (hs : Headers) :
    describeHeaders hs.redacted = describeHeaders hs := by
  rw [describeHeaders, describeHeaders, grouped_redacted, List.filter_map]
  simp only [Function.comp_def, redactHeader_name, List.map_map]
  refine congrArg _ (List.map_congr_left fun h hh => ?_)
  exact describeHeader_redacted h (List.mem_filter.1 hh).2

-- ---------------------------------------------------------------------------
-- Looking at requests
-- ---------------------------------------------------------------------------

theorem Request.id?_redacted (r : Request) : r.redacted.id? = r.id? := by
  unfold id?
  rw [redacted, first?_redacted (by decide +kernel)]

theorem Request.read_redacted (decode : Json.Decode α) (r : Request) :
    r.redacted.read decode = r.read decode := by
  have hjson : r.redacted.hasJson = r.hasJson := by
    unfold hasJson
    rw [redacted, first?_redacted (by decide +kernel)]
  unfold read
  rw [hjson]
  rfl

theorem Request.readQuery_redacted (decode : List (String × String) → Option α) (r : Request) :
    r.redacted.readQuery decode = r.readQuery decode := rfl

theorem answer_redacted (sizes : Search.PageSizes) (a : Arrival) (r : Request) (e : Endpoint) :
    answer sizes a r.redacted e = answer sizes a r e := by
  cases e <;> simp only [answer, Request.read_redacted, Request.readQuery_redacted]

theorem dispatch_redacted (sizes : Search.PageSizes) (a : Arrival) (resource : Option Resource)
    (r : Request) : dispatch sizes a resource r.redacted = dispatch sizes a resource r := by
  unfold dispatch
  simp only [answer_redacted]
  rfl

theorem serve_redacted (sizes : Search.PageSizes) (a : Arrival) (r : Request) :
    serve sizes a r.redacted = serve sizes a r := by
  have hheaders : describeHeaders r.redacted.headers = describeHeaders r.headers :=
    describeHeaders_redacted r.headers
  unfold serve
  simp only [Request.id?_redacted, dispatch_redacted, hheaders]
  rfl

/-- Over any storage, requests that differ in nothing but their credentials get the same response,
leave the same state and report the same events. The service may stand within a layer that is told
of a request no more than its method and its target. -/
theorem serve_hides_credentials (st : Storage σ) (s : σ) (sizes : Search.PageSizes) (a : Arrival)
    (layer : Method → Target → Procedure Response → Procedure Response) {r r' : Request}
    (h : r.redacted = r'.redacted) :
    let o := (layer r.method r.target (serve sizes a r)).run st s
    let o' := (layer r'.method r'.target (serve sizes a r')).run st s
    o.events = o'.events ∧ o.result = o'.result ∧ o.state = o'.state := by
  intro o o'
  have hmethod : r.redacted.method = r'.redacted.method := congrArg Request.method h
  have htarget : r.redacted.target = r'.redacted.target := congrArg Request.target h
  simp only [Request.redacted] at hmethod htarget
  have hserve : serve sizes a r = serve sizes a r' := by
    rw [← serve_redacted sizes a r, h, serve_redacted sizes a r']
  have ho : o = o' := by
    simp only [o, o', hmethod, htarget, hserve]
  simp [ho]

theorem serve_hides_credentials_tokens :
    let request (token : String) : Request :=
      { method := .get
        target := .ofString "/api/v1/prompts/greeting"
        headers := .ofList [("Accept", "*/*"), ("Authorization", token), ("Cookie", token)]
        body := [] }
    let run (token : String) :=
      (serve ⟨20, 100⟩ ⟨default, "request-1", 0⟩ (request token)).run .memory ∅
    (request "Bearer red").redacted = (request "Bearer blue").redacted ∧
      (run "Bearer red").events = (run "Bearer blue").events := by
  intro request run
  have h : (request "Bearer red").redacted = (request "Bearer blue").redacted := by rfl
  have hrun := serve_hides_credentials .memory ∅ ⟨20, 100⟩ ⟨default, "request-1", 0⟩
    (fun _ _ p => p) h
  exact ⟨h, hrun.1⟩

end PromptRegistry.Http
