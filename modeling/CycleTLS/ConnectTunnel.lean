import CycleTLS.Errors
import CycleTLS.Lib.Buffered

/-!
# Tunnels through an HTTP/1 proxy (`connect.go`)

`connectHTTP1` sends a CONNECT request over a connection to a proxy, reads the head of the response
with a buffered reader, and returns the connection. The buffered reader is dropped, with all that
it read past the head. So what the tunnel delivers is what the proxy sent after the head exactly if
a read ends where the head does (`tunnels_iff`); what follows the head in the same read is lost.
-/

namespace CycleTLS

open Buffered

/-- A response to a CONNECT request. -/
structure ConnectResponse where
  status : String
  statusCode : Int

/-- What a CONNECT request depends on outside the code modelled here. -/
structure ConnectEnv where
  /-- What `http.ReadResponse` makes of the lines of a head. -/
  parseHead : List Bytes → Except String ConnectResponse
  /-- Its error if a connection ends before the head does. -/
  unexpectedEOF : String

/-- The line after a head, up to its line feed. -/
def isBlank (line : Bytes) : Bool := line = [] ∨ line = [0x0d]

variable (env : ConnectEnv)

/-- `http.ReadResponse` with a `bufio.Reader`, for the reads of a connection. -/
def readResponse (reads : List Bytes) : Except String (ConnectResponse × Reader UInt8) :=
  match readLines 0x0a isBlank ⟨[], reads⟩ with
  | none => .error env.unexpectedEOF
  | some (lines, reader) =>
    match env.parseHead lines with
    | .error err => .error err
    | .ok resp => .ok (resp, reader)

/-- `connectHTTP1`, for the error of its write and the reads of the connection: the reads of the
    connection it returns. -/
def connectHTTP1 (writeError : Option String) (reads : List Bytes) : Except String (List Bytes) :=
  match writeError with
  | some err => .error err
  | none =>
    match readResponse env reads with
    | .error err => .error err
    | .ok (resp, reader) =>
      if resp.statusCode ≠ 200 then
        .error ("Proxy responded with non 200 code: " ++ resp.status ++ " StatusCode:" ++
          toString resp.statusCode)
      else .ok reader.reads

/-- A complete head of a response with the status 200. -/
structure ConnectHead where
  block : Block (0x0a : UInt8) isBlank
  accepted : ∃ resp, env.parseHead block.lines = .ok resp ∧ resp.statusCode = 200

/-- A connection is returned that delivers a text. -/
def Tunnels (reads : List Bytes) (tunnel : Bytes) : Prop :=
  ∃ rest, connectHTTP1 env none reads = .ok rest ∧ rest.flatten = tunnel

variable {env}

/-- After a head, the connection that is returned delivers all but what is left in the buffer. -/
theorem connectHTTP1_head (head : ConnectHead env) {tunnel : Bytes} {reads : List Bytes}
    (h : reads.flatten = head.block.text ++ tunnel) :
    ∃ reader, readLines 0x0a isBlank ⟨[], reads⟩ = some (head.block.lines, reader) ∧
      connectHTTP1 env none reads = .ok reader.reads ∧
      reader.buffered ++ reader.reads.flatten = tunnel := by
  obtain ⟨reader, hreader, hrest, -⟩ := readLines_text head.block (r := ⟨[], reads⟩) h
  obtain ⟨resp, hresp, hcode⟩ := head.accepted
  refine ⟨reader, hreader, ?_, hrest⟩
  rw [connectHTTP1, readResponse, hreader]
  dsimp only
  rw [hresp]
  exact if_neg (not_not.2 hcode)

theorem exists_take_of_tunnels (head : ConnectHead env) {tunnel : Bytes} {reads : List Bytes}
    (h : reads.flatten = head.block.text ++ tunnel) (htunnels : Tunnels env reads tunnel) :
    ∃ k, (reads.take k).flatten = head.block.text := by
  obtain ⟨reader, hreader, hconnect, hrest⟩ := connectHTTP1_head head h
  obtain ⟨rest, hok, hflat⟩ := htunnels
  cases hconnect.symm.trans hok
  exact (buffered_eq_nil_iff head.block h hreader).1
    (List.append_left_eq_self.1 (hrest.trans hflat.symm))

/-- A tunnel delivers what the proxy sends after the head of its response exactly if some read ends
    where the head does. -/
theorem tunnels_iff (head : ConnectHead env) {tunnel : Bytes} {reads : List Bytes}
    (h : reads.flatten = head.block.text ++ tunnel) :
    Tunnels env reads tunnel ↔ ∃ k, (reads.take k).flatten = head.block.text := by
  refine ⟨exists_take_of_tunnels head h, fun hk => ?_⟩
  obtain ⟨reader, hreader, hconnect, hrest⟩ := connectHTTP1_head head h
  rw [(buffered_eq_nil_iff head.block h hreader).2 hk, List.nil_append] at hrest
  exact ⟨_, hconnect, hrest⟩

/-- A proxy whose responses are all accepted. -/
def ConnectEnv.accepting : ConnectEnv := ⟨fun _ => .ok ⟨"200 OK", 200⟩, "unexpected EOF"⟩

/-- The head `HTTP/1.1 200 OK`. -/
def ConnectHead.ok : ConnectHead .accepting where
  block :=
    { lines := [[0x48, 0x54, 0x54, 0x50, 0x2f, 0x31, 0x2e, 0x31, 0x20, 0x32, 0x30, 0x30, 0x20,
        0x4f, 0x4b, 0x0d]]
      last := [0x0d]
      separated := by decide
      ends := by decide }
  accepted := ⟨_, rfl, rfl⟩

/-- The proxy waits with what it tunnels. -/
theorem tunnels_apart : Tunnels .accepting [ConnectHead.ok.block.text, [0x16]] [0x16] :=
  (tunnels_iff .ok rfl).2 ⟨1, rfl⟩

/-- The head and what follows it come in one read. -/
theorem not_forall_tunnels : ¬∀ (env : ConnectEnv) (head : ConnectHead env) (tunnel : Bytes)
    (reads : List Bytes), reads.flatten = head.block.text ++ tunnel →
      Tunnels env reads tunnel := by
  intro h
  have hreads : ([ConnectHead.ok.block.text ++ [0x16]] : List Bytes).flatten =
    ConnectHead.ok.block.text ++ [0x16] := rfl
  obtain ⟨k, hk⟩ := exists_take_of_tunnels .ok hreads (h _ .ok _ _ hreads)
  cases k with
  | zero => exact absurd hk (by decide)
  | succ k => exact absurd (congrArg List.length hk) (by simp)

end CycleTLS
