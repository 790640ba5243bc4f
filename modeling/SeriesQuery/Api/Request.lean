import SeriesQuery.Query.Request

/-!
# Requests

What the body of a request holds, and how a query is made from it. A bound of the time range is a
number of milliseconds or a text: a number, a time relative to the present such as `now-6h`, or a
point in time.
-/

namespace SeriesQuery

/-- What is wrong with a request. -/
inductive RequestError where
  /-- The header does not announce the data format. -/
  | mediaType
  /-- The body is too long. -/
  | tooLong
  /-- The body is no document. -/
  | notData
  /-- The body has another shape than asked for. -/
  | wrongShape
  /-- There is no width of buckets. -/
  | noInterval
  /-- The width of buckets is not positive. -/
  | badInterval (width : Int64)
  /-- A text is no time relative to the present. -/
  | badRelativeTime (text : String)
  /-- The number of a relative time is too large. -/
  | badAmount
  /-- A text is no point in time. -/
  | badTime (text : String)
  /-- The range does not start before it ends. -/
  | badRange
  /-- The request was broken off. -/
  | overflow (o : Overflow)
  deriving DecidableEq

/-- The wording of the error. -/
def RequestError.message : RequestError → String
  | mediaType => "Expected request with \x60Content-Type: application/json\x60"
  | tooLong => "Failed to buffer the request body: length limit exceeded"
  | notData => "Failed to parse the request body as JSON"
  | wrongShape => "Failed to deserialize the JSON body into the target type"
  | noInterval => "intervalMs is required"
  | badInterval width => "intervalMs must be positive, got " ++ toString width.toInt
  | badRelativeTime text => "Cannot parse relative time: " ++ text
  | badAmount => "Invalid number in time expression"
  | badTime text => "Cannot parse timestamp: " ++ text
  | badRange => "range.from must be before range.to"
  | overflow o => o.message

/-- A bound of a time range. -/
inductive TimeBound where
  /-- Milliseconds. -/
  | millis (t : Int64)
  /-- A text for a point in time. -/
  | text (s : String)

/-- The body of a query. -/
structure QueryRequest where
  interval : Option Int64
  start : TimeBound
  stop : TimeBound
  targets : List TargetQuery
  scopedVars : ScopedVars

namespace TimeBound

/-- Decodes a bound. -/
def decode : Decoder TimeBound := fun r d => do
  match ← Decode.value r d with
  | .num n =>
    match n.toInt64? with
    | some t => .ok (.millis t)
    | none => .error .shape
  | .str s => .ok (.text s)
  | _ => .error .shape

/-- Milliseconds of a unit of time. -/
def unit? (c : Char) : Option Int64 :=
  [('s', 1000), ('m', 60 * 1000), ('h', 3600 * 1000), ('d', 24 * 3600 * 1000),
    ('w', 7 * 24 * 3600 * 1000)].lookup c

/-- The point in time that is some units before the present. -/
def before (now amount unit : Int64) : Except Overflow Int64 := do
  let span ← Word.mul amount unit
  Word.sub now span

/-- The point in time that a text names relative to the present. -/
def relative (now : Int64) (s : String) : Except RequestError Int64 :=
  let digits := (s.toList.drop 4).takeWhile Text.isDecimalDigit
  let unit :=
    match (s.toList.drop 4).drop digits.length with
    | [c] => unit? c
    | _ => none
  if s = "now" then .ok now
  else
    match Text.after? "now-".toList s.toList, digits, unit with
    | some _, _ :: _, some ms =>
      match Text.parseInt64? digits with
      | some amount => (before now amount ms).mapError RequestError.overflow
      | none => .error .badAmount
    | _, _, _ => .error (.badRelativeTime s)

/-- The point in time that a text names. -/
def ofText (now : Int64) (s : String) : Except RequestError Int64 :=
  match Text.parseInt64? s.toList with
  | some t => .ok t
  | none =>
    if (Text.after? "now".toList s.toList).isSome then relative now s
    else
      match ((Stamp.instant s).toOption.or (Stamp.local? s)).or (Stamp.day? s) with
      | some t => .ok (Int64.ofInt t)
      | none => .error (.badTime s)

/-- The point in time of a bound. -/
def resolve (now : Int64) : TimeBound → Except RequestError Int64
  | millis t => .ok t
  | text s => ofText now (Text.trim s)

end TimeBound

namespace QueryRequest

/-- The bounds of a time range. -/
def decodeRange : Decoder (TimeBound × TimeBound) :=
  Decode.record (.millis 0, .millis 0)
    [Decode.field .required "from" TimeBound.decode fun r v => (v, r.2),
      Decode.field .required "to" TimeBound.decode fun r v => (r.1, v)]

/-- Decodes the body of a query. -/
def decode : Decoder QueryRequest :=
  Decode.record ⟨none, .millis 0, .millis 0, [], []⟩
    [Decode.field .defaulted "intervalMs" (Decode.orNull Decode.int64)
        fun r v => { r with interval := v },
      Decode.field .required "range" decodeRange fun r v => { r with start := v.1, stop := v.2 },
      Decode.field .defaulted "targets" (Decode.list TargetQuery.decode)
        fun r v => { r with targets := v },
      Decode.field .defaulted "scopedVars" ScopedVars.decode fun r v => { r with scopedVars := v }]

/-- The query of a request. -/
def toParams (now : Int64) (r : QueryRequest) : Except RequestError QueryParams := do
  let interval ← match r.interval with
    | some ms => if 0 < ms then pure ms else throw (.badInterval ms)
    | none => throw .noInterval
  let start ← r.start.resolve now
  let stop ← r.stop.resolve now
  match TimeRange.ofBounds? start stop with
  | some range => return { range, interval, targets := r.targets, scopedVars := r.scopedVars }
  | none => throw .badRange

end QueryRequest

/-- Decodes the body of a search: the name of a query. -/
def decodeSearch : Decoder (Option String) :=
  Decode.record none
    [Decode.field .defaulted "target" (Decode.orNull Decode.text) fun _ v => v]

end SeriesQuery
