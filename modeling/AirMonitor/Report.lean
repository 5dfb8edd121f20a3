import Mathlib.Data.List.TakeWhile
import AirMonitor.ClimateData
import AirMonitor.Http
import AirMonitor.Json
import AirMonitor.Pressure
import AirMonitor.Si7021

/-!
`postWeatherServer` of `main.c`: a JSON body printed into the caller's first
buffer, an HTTP request around it printed into the second, and the request
written to a socket. Neither `sprintf` is told the size of its buffer.
-/

namespace AirMonitor.Report
open Printf Http Json Pressure Si7021

/-- `WEB_URL` and `WEB_SERVER` are string literals of `settings.h`. -/
abbrev CString := { bytes : List UInt8 // 0 ∉ bytes }

/-- The string a buffer holds, up to its terminator. -/
def stringAt (buffer : List UInt8) : List UInt8 := buffer.takeWhile (· != 0)

def strlen (buffer : List UInt8) : Nat := (stringAt buffer).length

/-- `sprintf`; `none` where it is undefined, in particular past the buffer's end. -/
def sprintf (buffer : List UInt8) (text : List UInt8) (args : List Arg) : Option (List UInt8) :=
  (format text args).bind fun printed =>
    if printed.length < buffer.length then some (printed ++ 0 :: buffer.drop (printed.length + 1))
    else none

def bodyFormat : List UInt8 :=
  ascii "\x7b\"sensorId\":1,\"temperature\":%f,\"humidity\":%f,\"pressure\":%f,\"co2\":%d\x7d\r\n"

def requestFormat : List UInt8 :=
  ascii "POST %s HTTP/1.1\r\nHost: %s\r\nContent-Type: application/json\r\nContent-Length: %d\r\n\r\n%s"

/-- A `write` that returns has taken over that many bytes, also too few; one that
fails may have let some out before. -/
inductive Written where
  | took (count : Nat)
  | failed (before : Nat)

/-- What `write` returns. -/
def Written.value : Written → Int
  | .took count => count
  | .failed _ => -1

def Written.sent : Written → Nat
  | .took count => count
  | .failed before => before

/-- What becomes of each call that sends the request. -/
structure Network where
  lookup : Bool
  socket : Bool
  connect : Bool
  write : Written

/-- What `ESP_LOGE` is called about. -/
inductive Trouble where
  | lookup
  | socket
  | connect
  | send
  deriving DecidableEq

/-- From `getaddrinfo` to `write(s, request, strlen(request))`: the bytes that went to
the socket if it was reached, and the first call to fail. -/
def Network.send (network : Network) (request : List UInt8) :
    Option (List UInt8) × Option Trouble :=
  if !network.lookup then (none, some .lookup)
  else if !network.socket then (none, some .socket)
  else if !network.connect then (none, some .connect)
  else
    -- a short write is not told from a whole one
    let sent := (stringAt request).take network.write.sent
    if network.write.value < 0 then (some sent, some .send) else (some sent, none)

/-- Both buffers as the call leaves them, what went to the socket, and the error
it logged. -/
structure Post where
  requestData : List UInt8
  request : List UInt8
  sent : Option (List UInt8)
  trouble : Option Trouble

def postWeatherServer (url server : CString) (network : Network) (data : ClimateData)
    (request requestData : List UInt8) : Option Post := do
  let temperature ← data.temperature
  let humidity ← data.humidity
  let pressure ← data.pressure
  let co2 ← data.co2
  let requestData ← sprintf requestData bodyFormat
    [.double temperature, .double humidity, .double pressure, .int co2]
  let request ← sprintf request requestFormat
    [.string url.1, .string server.1, .int (strlen requestData), .string (stringAt requestData)]
  let outcome := network.send request
  some ⟨requestData, request, outcome.1, outcome.2⟩

theorem sprintf_stored (buffer text : List UInt8) (args : List Arg) (printed : List UInt8)
    (prints : format text args = some printed) (fits : printed.length < buffer.length)
    (clean : (0 : UInt8) ∉ printed) :
    ∃ stored, sprintf buffer text args = some stored ∧ stringAt stored = printed := by
  refine ⟨printed ++ 0 :: buffer.drop (printed.length + 1), ?_, ?_⟩
  · rw [sprintf, prints, Option.bind_some, if_pos fits]
  · have solid : ∀ byte ∈ printed, (byte != 0) = true := by
      intro byte member
      simp only [bne_iff_ne, ne_eq]
      rintro rfl
      exact clean member
    rw [stringAt, List.takeWhile_append_of_pos solid]
    simp

/-! The body -/

def sensorId : Key := ⟨ascii "sensorId", rfl⟩
def temperatureKey : Key := ⟨ascii "temperature", rfl⟩
def humidityKey : Key := ⟨ascii "humidity", rfl⟩
def pressureKey : Key := ⟨ascii "pressure", rfl⟩
def co2Key : Key := ⟨ascii "co2", rfl⟩

def members (temperature humidity pressure : ℚ) (co2 : Int) : List (Key × Numeral) :=
  [(sensorId, integer 1), (temperatureKey, fixed temperature), (humidityKey, fixed humidity),
    (pressureKey, fixed pressure), (co2Key, integer co2)]

def bodyOf (temperature humidity pressure : ℚ) (co2 : Int) : List UInt8 :=
  openBrace :: encodeMembers (members temperature humidity pressure co2) ++
    closeBrace :: ascii "\r\n"

/-- The body as it is printed, conversion by conversion. -/
theorem body_text (temperature humidity pressure : ℚ) (co2 : Int) :
    bodyOf temperature humidity pressure co2 =
      ascii "\x7b\"sensorId\":1,\"temperature\":" ++ (formatF temperature ++
        (ascii ",\"humidity\":" ++ (formatF humidity ++ (ascii ",\"pressure\":" ++
          (formatF pressure ++ (ascii ",\"co2\":" ++ (formatD co2 ++ ascii "\x7d\r\n"))))))) := by
  have sensor : formatD 1 = [49] := by decide +kernel
  simp [bodyOf, members, encodeMembers, encodeMember, sensorId, temperatureKey, humidityKey,
    pressureKey, co2Key, integer, fixed, ascii, sensor, openBrace, closeBrace, quote, colon, comma]

theorem body_format (temperature humidity pressure : ℚ) (co2 : Int) :
    format bodyFormat [.double temperature, .double humidity, .double pressure, .int co2] =
      some (bodyOf temperature humidity pressure co2) := by
  rw [body_text]
  simp [format, bodyFormat, ascii, Arg.conversion, Arg.text]

theorem body_parses (temperature humidity pressure : ℚ) (co2 : Int) :
    parseObject (bodyOf temperature humidity pressure co2) =
      some (meaning (members temperature humidity pressure co2)) :=
  parse_encode _ _ (ascii "\r\n") (by decide)

/-! The request -/

def requestLine (url : List UInt8) : List UInt8 := ascii "POST " ++ url ++ ascii " HTTP/1.1"

def hostLine (server : List UInt8) : List UInt8 := ascii "\nHost: " ++ server

def typeLine : List UInt8 := ascii "\nContent-Type: application/json"

def lengthLine (length : Nat) : List UInt8 := ascii "\nContent-Length: " ++ decimal length

def headOf (url server : List UInt8) (length : Nat) : List UInt8 :=
  requestLine url ++ carriageReturn :: (hostLine server ++ carriageReturn ::
    (typeLine ++ carriageReturn :: lengthLine length))

theorem request_format (url server : List UInt8) (length : Nat) (body : List UInt8) :
    format requestFormat [.string url, .string server, .int length, .string body] =
      some (headOf url server length ++ (blankLine ++ body)) := by
  simp [format, requestFormat, ascii, Arg.conversion, Arg.text, headOf, requestLine, hostLine,
    typeLine, lengthLine, blankLine, carriageReturn, format_d_nat]

/-- Neither a carriage return nor a line feed. -/
def OneLine (bytes : List UInt8) : Prop := 13 ∉ bytes ∧ 10 ∉ bytes

instance (bytes : List UInt8) : Decidable (OneLine bytes) := inferInstanceAs (Decidable (_ ∧ _))

section Header
variable (url server : List UInt8) (oneUrl : OneLine url) (oneServer : OneLine server)
  (length : Nat) (body : List UInt8)

theorem type_clear : carriageReturn ∉ typeLine := by decide

theorem length_clear : carriageReturn ∉ lengthLine length := by
  rw [lengthLine, List.mem_append]
  rintro (label | digits)
  · exact absurd label (by decide)
  · exact absurd (decimal_digits _ _ digits) (by decide)

include oneUrl in
theorem request_line_clear : carriageReturn ∉ requestLine url := by
  simp only [requestLine, List.mem_append, not_or]
  exact ⟨⟨by decide, oneUrl.1⟩, by decide⟩

include oneServer in
theorem host_clear : carriageReturn ∉ hostLine server := by
  simp only [hostLine, List.mem_append, not_or]
  exact ⟨by decide, oneServer.1⟩

include oneUrl oneServer in
/-- A mark that begins neither line break before the length line is looked for
after them. -/
theorem split_head (more tail : List UInt8)
    (host : ∀ rest, (carriageReturn :: more).isPrefixOf
      (carriageReturn :: (hostLine server ++ rest)) = false)
    (type : ∀ rest, (carriageReturn :: more).isPrefixOf
      (carriageReturn :: (typeLine ++ rest)) = false) :
    splitFirst (carriageReturn :: more) (requestLine url ++ carriageReturn ::
        (hostLine server ++ carriageReturn :: (typeLine ++ tail))) =
      (splitFirst (carriageReturn :: more) tail).map fun parts =>
        (requestLine url ++ carriageReturn ::
          (hostLine server ++ carriageReturn :: (typeLine ++ parts.1)), parts.2) := by
  rw [split_line carriageReturn more _ _ (request_line_clear url oneUrl) (host _),
    split_line carriageReturn more _ _ (host_clear server oneServer) (type _),
    split_row carriageReturn more _ _ type_clear, Option.map_map, Option.map_map]
  rfl

include oneUrl oneServer in
/-- The first blank line is the one the format puts in front of the body. -/
theorem split_request :
    splitFirst blankLine (headOf url server length ++ (blankLine ++ body)) =
      some (headOf url server length, body) := by
  have mark : blankLine = carriageReturn :: ascii "\n\r\n" := rfl
  have shape : headOf url server length ++ (blankLine ++ body) =
      requestLine url ++ carriageReturn :: (hostLine server ++ carriageReturn ::
        (typeLine ++ (carriageReturn :: (lengthLine length ++ (blankLine ++ body))))) := by
    simp [headOf]
  have last : splitFirst blankLine (carriageReturn :: (lengthLine length ++ (blankLine ++ body))) =
      some (carriageReturn :: lengthLine length, body) := by
    rw [mark, split_skip _ _ _ rfl, split_found carriageReturn _ _ _ (length_clear length)]
    rfl
  rw [shape, mark, split_head url server oneUrl oneServer (ascii "\n\r\n") _ (fun _ => rfl)
    (fun _ => rfl), ← mark, last]
  rfl

include oneUrl oneServer in
theorem request_content_length : contentLength (headOf url server length) = some length := by
  have mark : ascii "\r\n" ++ ascii "Content-Length" ++ ascii ": " =
      carriageReturn :: ascii "\nContent-Length: " := rfl
  have solid : ∀ byte ∈ decimal length, (byte != carriageReturn) = true := by
    intro byte member
    simp only [bne_iff_ne, ne_eq]
    rintro rfl
    exact absurd (decimal_digits length _ member) (by decide)
  have digits := List.takeWhile_eq_self_iff.mpr solid
  have found := split_here carriageReturn (ascii "\nContent-Length: ") (decimal length)
  rw [contentLength, field, mark, headOf, lengthLine,
    split_head url server oneUrl oneServer (ascii "\nContent-Length: ") _ (fun _ => rfl)
    (fun _ => rfl), ← List.cons_append, found]
  simp [digits, number_decimal]

end Header

/-! Lengths -/

theorem body_length (temperature humidity pressure : ℚ) (co2 : Int) :
    (bodyOf temperature humidity pressure co2).length =
      62 + (formatF temperature).length + (formatF humidity).length +
        (formatF pressure).length + (formatD co2).length := by
  rw [body_text]
  simp [ascii]
  omega

theorem head_length (url server : List UInt8) (length : Nat) :
    (headOf url server length ++ blankLine).length =
      76 + url.length + server.length + (decimal length).length := by
  simp [headOf, requestLine, hostLine, typeLine, lengthLine, blankLine, ascii]
  omega

/-! The encoder on a whole record -/

/-- A record as one cycle of the acquisition functions leaves it. -/
structure Measured where
  temperature : UInt16
  humidity : UInt16
  pressure : { value : UInt32 // 90000 < value.toNat ∧ value.toNat < 110000 }
  co2 : { value : Int // 0 ≤ value ∧ value ≤ 65535 }

def Measured.data (measured : Measured) : ClimateData where
  temperature := some (temperatureOf measured.temperature)
  humidity := some (humidityOf measured.humidity)
  pressure := some (hectopascal measured.pressure.1)
  co2 := some measured.co2.1

-- Generous bounds: what counts is the number of digits in front of the point.
theorem temperature_small (code : UInt16) : |temperatureOf code| ≤ 10 ^ 3 - 1 := by
  have bound : (code.toNat : ℚ) < 65536 := by exact_mod_cast code.toNat_lt
  have nonneg : (0 : ℚ) ≤ code.toNat := by positivity
  rw [abs_le, temperatureOf]
  constructor <;> linarith

theorem humidity_small (code : UInt16) : |humidityOf code| ≤ 10 ^ 3 - 1 := by
  have bound : (code.toNat : ℚ) < 65536 := by exact_mod_cast code.toNat_lt
  have nonneg : (0 : ℚ) ≤ code.toNat := by positivity
  rw [abs_le, humidityOf]
  constructor <;> linarith

theorem hectopascal_small (pressure : UInt32) (band : pressure.toNat < 110000) :
    |hectopascal pressure| ≤ 10 ^ 4 - 1 := by
  have bound : (pressure.toNat : ℚ) < 110000 := by exact_mod_cast band
  have nonneg : (0 : ℚ) ≤ pressure.toNat := by positivity
  rw [abs_le, hectopascal]
  constructor <;> linarith

def Measured.body (measured : Measured) : List UInt8 :=
  bodyOf (temperatureOf measured.temperature) (humidityOf measured.humidity)
    (hectopascal measured.pressure.1) measured.co2.1

theorem body_short (measured : Measured) : measured.body.length ≤ 104 := by
  have temperature := format_f_length _ 3 (by decide) (temperature_small measured.temperature)
  have humidity := format_f_length _ 3 (by decide) (humidity_small measured.humidity)
  have pressure := format_f_length _ 4 (by decide)
    (hectopascal_small measured.pressure.1 measured.pressure.2.2)
  have co2 := format_d_length measured.co2.1 5 (by decide) measured.co2.2.1
    (by have := measured.co2.2.2; omega)
  rw [Measured.body, body_length]
  omega

theorem body_solid (measured : Measured) : (0 : UInt8) ∉ measured.body := by
  rw [Measured.body, body_text]
  simp only [List.mem_append, not_or]
  exact ⟨by decide, format_f_solid _, by decide, format_f_solid _, by decide, format_f_solid _,
    by decide, format_d_solid _, by decide⟩

theorem head_solid (url server : CString) (length : Nat) :
    (0 : UInt8) ∉ headOf url.1 server.1 length ++ blankLine := by
  have digits : (0 : UInt8) ∉ decimal length := fun member =>
    absurd (decimal_digits length 0 member) (by decide)
  simp [headOf, requestLine, hostLine, typeLine, lengthLine, blankLine, ascii, carriageReturn,
    url.2, server.2, digits]

/-- Both texts fit, end where their buffers' strings end, and are what is sent. -/
theorem posts (url server : CString) (network : Network) (measured : Measured)
    (request requestData : List UInt8) (sizeData : requestData.length = 300)
    (size : request.length = 512) (short : url.1.length + server.1.length ≤ 300) :
    ∃ post, postWeatherServer url server network measured.data request requestData = some post ∧
      stringAt post.requestData = measured.body ∧
      stringAt post.request =
        headOf url.1 server.1 measured.body.length ++ (blankLine ++ measured.body) ∧
      (stringAt post.request).length < 512 := by
  -- at most 104 bytes of body, and with it at most 483 of request
  have small := body_short measured
  obtain ⟨storedData, stores, holds⟩ := sprintf_stored requestData bodyFormat _ measured.body
    (body_format _ _ _ _) (by omega) (body_solid measured)
  have digits := decimal_length_le measured.body.length 3 (by decide) (by omega)
  have head := head_length url.1 server.1 measured.body.length
  have fits : (headOf url.1 server.1 measured.body.length ++
      (blankLine ++ measured.body)).length < request.length := by
    rw [← List.append_assoc, List.length_append]
    omega
  have solid : (0 : UInt8) ∉ headOf url.1 server.1 measured.body.length ++
      (blankLine ++ measured.body) := by
    rw [← List.append_assoc, List.mem_append, not_or]
    exact ⟨head_solid url server _, body_solid measured⟩
  obtain ⟨stored, storesRequest, holdsRequest⟩ := sprintf_stored request requestFormat _ _
    (request_format url.1 server.1 measured.body.length measured.body) fits solid
  refine ⟨⟨storedData, stored, (network.send stored).1, (network.send stored).2⟩, ?_, holds,
    holdsRequest, ?_⟩
  · simp only [postWeatherServer, Measured.data, stores, strlen, holds, storesRequest,
      Option.bind_eq_bind, Option.bind_some]
  · rw [holdsRequest, ← size]
    exact fits

/-- The members a reader gets, each field within half a millionth. -/
def Reads (measured : Measured) (parsed : List Member) : Prop :=
  ∃ temperature humidity pressure, parsed =
      [(ascii "sensorId", 1), (ascii "temperature", temperature), (ascii "humidity", humidity),
        (ascii "pressure", pressure), (ascii "co2", (measured.co2.1 : ℚ))] ∧
    |temperature - temperatureOf measured.temperature| ≤ 1 / 2000000 ∧
    |humidity - humidityOf measured.humidity| ≤ 1 / 2000000 ∧
    |pressure - hectopascal measured.pressure.1| ≤ 1 / 2000000

theorem body_reads (measured : Measured) :
    ∃ parsed, parseObject measured.body = some parsed ∧ Reads measured parsed :=
  ⟨_, body_parses _ _ _ _, _, _, _, by simp [meaning, members, integer, fixed, sensorId,
    temperatureKey, humidityKey, pressureKey, co2Key], printed_near _, printed_near _, printed_near _⟩

theorem post_encodes (url server : CString) (oneUrl : OneLine url.1) (oneServer : OneLine server.1)
    (short : url.1.length + server.1.length ≤ 300) (network : Network) (measured : Measured)
    (request requestData : List UInt8) (sizeData : requestData.length = 300)
    (size : request.length = 512) :
    ∃ post body message,
      postWeatherServer url server network measured.data request requestData = some post ∧
      stringAt post.requestData = body ∧ stringAt post.request = message ∧
      body.length + 1 ≤ 300 ∧ message.length + 1 ≤ 512 ∧
      (∃ head, splitFirst blankLine message = some (head, body) ∧
        contentLength head = some body.length) ∧
      ∃ parsed, parseObject body = some parsed ∧ Reads measured parsed := by
  obtain ⟨post, posted, body, message, fits⟩ :=
    posts url server network measured request requestData sizeData size short
  have small := body_short measured
  have split := split_request url.1 server.1 oneUrl oneServer measured.body.length measured.body
  have length := request_content_length url.1 server.1 oneUrl oneServer measured.body.length
  rw [message] at fits
  exact ⟨post, measured.body, _, posted, body, message, by omega, fits, ⟨_, split, length⟩,
    body_reads measured⟩

/-- A frosty day, so that the temperature is printed with its sign. -/
def frosty : Measured := ⟨0x3A00, 0x8000, ⟨101325, by decide⟩, ⟨412, by decide⟩⟩

theorem post_encodes_frosty :
    ∃ post body message,
      postWeatherServer ⟨ascii "/api/climate", by decide⟩ ⟨ascii "example", by decide⟩
        ⟨true, true, true, .took 160⟩ frosty.data (List.replicate 512 0xA5) (List.replicate 300 0xA5) =
          some post ∧
      stringAt post.requestData = body ∧ stringAt post.request = message ∧
      body.length + 1 ≤ 300 ∧ message.length + 1 ≤ 512 ∧
      (∃ head, splitFirst blankLine message = some (head, body) ∧
        contentLength head = some body.length) ∧
      ∃ parsed, parseObject body = some parsed ∧ Reads frosty parsed :=
  post_encodes _ _ (by decide) (by decide) (by decide) _ frosty _ _ List.length_replicate
    List.length_replicate

end AirMonitor.Report
