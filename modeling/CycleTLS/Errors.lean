import CycleTLS.Lib.Utf8

/-!
# Errors of the transport (`errors.go`)

The error values the HTTP exchange of `Do` can end with, as `parseError` tells
them apart, and the status and message it gives them. A Go string is any byte
string (`Bytes`): the text of an error may quote what a server sent.

`parseError` looks at the text first: certificate phrases, a refused
connection, timeouts, then a number after the last `StatusCode:`; only then at
the types inside the error. `parseError_cases` lists what it can return.
-/

namespace CycleTLS

open Text Utf8

/-- A Go string. -/
abbrev Bytes := List UInt8

/-- `strings.Contains`. -/
def contains (s : Bytes) (sub : String) : Bool := hits [utf8 sub] s

/-! ## Quoting and numbers -/

/-- The bytes of the characters `unicode.IsSpace` accepts. -/
def spaces : List Bytes :=
  ["\t", "\n", "\x0b", "\x0c", "\r", " ", "\u0085", "\u00a0", "\u1680", "\u2000", "\u2001",
    "\u2002", "\u2003", "\u2004", "\u2005", "\u2006", "\u2007", "\u2008", "\u2009", "\u200a",
    "\u2028", "\u2029", "\u202f", "\u205f", "\u3000"].map utf8

/-- Strip beginnings out of `pats`, at most `n` times. -/
def trimLeft (pats : List Bytes) : Nat → Bytes → Bytes
  | 0, s => s
  | n + 1, s =>
    match pats.find? fun p => decide (p <+: s) with
    | some p => trimLeft pats n (s.drop p.length)
    | none => s

/-- `strings.TrimSpace`. -/
def trimSpace (s : Bytes) : Bytes :=
  let left := trimLeft spaces s.length s
  (trimLeft (spaces.map List.reverse) left.length left.reverse).reverse

/-- The value `strconv.ParseUint(s, 10, 16)` returns: `0` at a syntax error, the
    largest `uint16` where the number gets out of range (whatever follows). -/
def parseUint16 (s : Bytes) : UInt16 := go 0 s
where
  go (n : Nat) : Bytes → UInt16
    | [] => UInt16.ofNat n
    | c :: s =>
      if 0x30 ≤ c ∧ c ≤ 0x39 then
        let n₁ := n * 10 + (c.toNat - 0x30)
        if 0xffff < n₁ then 0xffff else go n₁ s
      else 0

/-- Stripping leaves an end of the text. -/
theorem trimLeft_suffix (pats : List Bytes) (n : Nat) (s : Bytes) : trimLeft pats n s <:+ s := by
  induction n generalizing s with
  | zero => exact List.suffix_rfl
  | succ n ih =>
    rw [trimLeft]
    split
    · exact (ih _).trans (List.drop_suffix _ _)
    · exact List.suffix_rfl

/-- A text that begins with a letter keeps it, if anything. -/
theorem trimSpace_prefix {b : UInt8} (hb : 0x41 ≤ b ∧ b ≤ 0x5a) (s : Bytes) :
    trimSpace (b :: s) <+: b :: s := by
  have hspaces : ∀ p ∈ spaces, (p.head?.any fun c => decide (c < 0x41 ∨ 0x5a < c)) = true := by
    decide +kernel
  -- every space starts with a byte that is no capital letter
  have hnone : spaces.find? (fun p => decide (p <+: b :: s)) = none := by
    rw [List.find?_eq_none]
    intro p hp hpre
    rw [decide_eq_true_eq] at hpre
    have hhead := hspaces p hp
    cases p with
    | nil => cases hhead
    | cons c p =>
      obtain ⟨rfl, _⟩ := List.cons_prefix_cons.1 hpre
      simp only [List.head?_cons, Option.any_some, decide_eq_true_eq] at hhead
      rcases hhead with h | h
      · exact absurd hb.1 (UInt8.not_le.2 h)
      · exact absurd hb.2 (UInt8.not_le.2 h)
  have hleft : trimLeft spaces (b :: s).length (b :: s) = b :: s := by
    rw [List.length_cons, trimLeft, hnone]
  rw [trimSpace, hleft, ← List.reverse_suffix, List.reverse_reverse]
  exact trimLeft_suffix _ _ _

/-- A text that begins with a letter is no number. -/
theorem parseUint16_trimSpace_eq_zero {b : UInt8} (hb : 0x41 ≤ b ∧ b ≤ 0x5a) (s : Bytes) :
    parseUint16 (trimSpace (b :: s)) = 0 := by
  have hpre := trimSpace_prefix hb s
  cases htrim : trimSpace (b :: s) with
  | nil => rfl
  | cons c t =>
    rw [htrim] at hpre
    obtain ⟨rfl, _⟩ := List.cons_prefix_cons.1 hpre
    rw [parseUint16, parseUint16.go, if_neg]
    rintro ⟨_, h⟩
    exact absurd (UInt8.le_trans hb.1 h) (by decide)

/-- A hexadecimal digit, in lower case. -/
def lowerhex (n : Nat) : Char := "0123456789abcdef".toList.getD (n % 16) '0'

/-- The last `width` hexadecimal digits of `n`. -/
def hexDigits : (width n : Nat) → List Char
  | 0, _ => []
  | w + 1, n => hexDigits w (n / 16) ++ [lowerhex n]

section Quote

variable (isPrint : Char → Bool)

/-- A character between the quotes of `strconv.Quote`; `isPrint` is
    `strconv.IsPrint` outside ASCII. -/
def quoteChar (c : Char) : List Char :=
  if c = '"' ∨ c = '\\' then ['\\', c]
  else if if c.toNat < 0x80 then 0x20 ≤ c.toNat ∧ c.toNat < 0x7f else isPrint c = true then [c]
  else if c = '\x07' then ['\\', 'a']
  else if c = '\x08' then ['\\', 'b']
  else if c = '\x0c' then ['\\', 'f']
  else if c = '\n' then ['\\', 'n']
  else if c = '\r' then ['\\', 'r']
  else if c = '\t' then ['\\', 't']
  else if c = '\x0b' then ['\\', 'v']
  else if c.toNat < 0x20 ∨ c.toNat = 0x7f then '\\' :: 'x' :: hexDigits 2 c.toNat
  else if c.toNat < 0x10000 then '\\' :: 'u' :: hexDigits 4 c.toNat
  else '\\' :: 'U' :: hexDigits 8 c.toNat

/-- What `strconv.Quote` writes between the quotes. -/
def quoteBody (s : String) : String := String.ofList (s.toList.flatMap (quoteChar isPrint))

/-- Printable ASCII without quotes and backslashes is quoted as it stands. -/
theorem quoteBody_of_printable {s : String}
    (hs : ∀ c ∈ s.toList, c ≠ '"' ∧ c ≠ '\\' ∧ 0x20 ≤ c.toNat ∧ c.toNat < 0x7f) :
    quoteBody isPrint s = s := by
  have h : s.toList.flatMap (quoteChar isPrint) = s.toList.flatMap fun c => [c] := by
    refine List.flatMap_congr fun c hc => ?_
    obtain ⟨h₁, h₂, h₃, h₄⟩ := hs c hc
    rw [quoteChar, if_neg (by simp [h₁, h₂]), if_pos]
    rw [if_pos (by omega)]
    exact ⟨h₃, h₄⟩
  rw [quoteBody, h, List.flatMap_singleton', String.ofList_toList]

end Quote

/-! ## Error values -/

/-- What a `*net.OpError` wraps. -/
inductive OpCause
  /-- An `*os.SyscallError`. -/
  | syscallError (text : Bytes) (timeout : Bool)
  /-- A `*net.AddrError`, which never is a timeout. -/
  | addrError (text : Bytes)
  /-- A `*net.DNSError`. -/
  | dnsError (text : Bytes) (timeout : Bool)
  /-- Any other error. -/
  | other (text : Bytes) (timeout : Bool)
  deriving DecidableEq

/-- The text of the cause. -/
def OpCause.text : OpCause → Bytes
  | syscallError text _ | addrError text | dnsError text _ | other text _ => text

/-- Whether the cause says it is a timeout. -/
def OpCause.timeout : OpCause → Bool
  | syscallError _ t | dnsError _ t | other _ t => t
  | addrError _ => false

/-- A `*net.OpError`; no network or address is the empty string. -/
structure OpError where
  op : Bytes
  net : Bytes
  source : Option Bytes
  addr : Option Bytes
  err : OpCause
  deriving DecidableEq

/-- What `Error()` writes before the cause. -/
def OpError.head (e : OpError) : Bytes :=
  e.op ++ (if e.net = [] then [] else utf8 " " ++ e.net) ++
    (match e.source with | none => [] | some a => utf8 " " ++ a) ++
    (match e.addr with
      | none => []
      | some a => (if e.source.isSome then utf8 "->" else utf8 " ") ++ a)

/-- `(*net.OpError).Error`. -/
def OpError.text (e : OpError) : Bytes := e.head ++ utf8 ": " ++ e.err.text

/-- The error a `*url.Error` wraps. -/
inductive WrappedError
  | opError (e : OpError)
  | other (text : Bytes) (timeout : Bool)
  deriving DecidableEq

def WrappedError.text : WrappedError → Bytes
  | opError e => e.text
  | other text _ => text

def WrappedError.timeout : WrappedError → Bool
  | opError e => e.err.timeout
  | other _ t => t

/-- An error `Do` can be left with. -/
inductive GoError
  /-- `context.DeadlineExceeded` itself. -/
  | deadlineExceeded
  /-- A `*url.Error`: the operation, the URL as `%q` writes it, and the failure. -/
  | urlError (op : String) (quotedURL : String) (err : WrappedError)
  /-- Any other error. -/
  | other (text : Bytes)
  deriving DecidableEq

/-- `err.Error()`. -/
def GoError.text : GoError → Bytes
  | deadlineExceeded => utf8 "context deadline exceeded"
  | urlError op quotedURL err => utf8 (op ++ " " ++ quotedURL ++ ": ") ++ err.text
  | other text => text

/-! ## Classification -/

/-- The fields of an `errorMessage` its callers read. -/
structure ErrorMessage where
  statusCode : UInt16
  errorMsg : Bytes
  op : Bytes
  deriving DecidableEq

/-- `createErrorString`. -/
def createErrorString (err : Bytes) : Bytes := utf8 "Request returned a Syscall Error: " ++ err

/-- `createErrorMessage`, given the text of the error. -/
def createErrorMessage (statusCode : UInt16) (err op : Bytes) : ErrorMessage where
  statusCode := statusCode
  errorMsg := if op = utf8 "timeout" then utf8 "Request timeout: deadline exceeded"
    else createErrorString err
  op := op

@[simp] theorem createErrorMessage_statusCode (statusCode : UInt16) (err op : Bytes) :
    (createErrorMessage statusCode err op).statusCode = statusCode := rfl

/-- The phrases of a certificate error. -/
def certificatePhrases : List String :=
  ["uTlsConn.Handshake() error", "tls: failed to verify certificate", "x509: certificate",
    "certificate verify failed", "certificate has expired",
    "certificate signed by unknown authority"]

/-- The phrases of a timeout. -/
def timeoutPhrases : List String :=
  ["context deadline exceeded", "Client.Timeout", "context cancellation while reading body",
    "i/o timeout", "timeout"]

/-- The text is that of a TLS certificate error. -/
def isCertificateError (httpError : Bytes) : Bool := hits (certificatePhrases.map utf8) httpError

/-- The text is that of a refused connection. -/
def isConnectionRefused (httpError : Bytes) : Bool :=
  contains httpError "connection refused" || contains httpError "connect: connection refused" ||
    contains httpError "dial tcp" && contains httpError "connect: connection refused"

/-- The text is that of a timeout. -/
def isTimeout (httpError : Bytes) : Bool := hits (timeoutPhrases.map utf8) httpError

/-- The number after the last `StatusCode:`, `0` when there is none. -/
def statusNumber (httpError : Bytes) : UInt16 :=
  parseUint16 (trimSpace (afterLast (utf8 "StatusCode:") httpError))

/-- The end of `parseError`: a `*net.OpError` by what it wraps. -/
def parseOpError (noerr : OpError) : ErrorMessage :=
  match noerr.err with
  | .syscallError text timeout =>
    if timeout then createErrorMessage 408 text noerr.op else createErrorMessage 401 text noerr.op
  | .addrError text => createErrorMessage 405 text noerr.op
  | .dnsError text _ => createErrorMessage 421 text noerr.op
  | .other _ _ => createErrorMessage 421 noerr.text noerr.op

/-- The last part of `parseError`: by the types inside the error. -/
def parseErrorType (err : GoError) : ErrorMessage :=
  match err with
  | .urlError _ _ (.opError noerr) => parseOpError noerr
  | .urlError _ _ (.other _ true) => createErrorMessage 408 err.text []
  | _ => ⟨0, [], []⟩

/-- `parseError`. -/
def parseError (err : GoError) : ErrorMessage :=
  if err = .deadlineExceeded then createErrorMessage 408 err.text (utf8 "timeout")
  else if isCertificateError err.text then createErrorMessage 495 err.text (utf8 "certificate")
  else if isConnectionRefused err.text then createErrorMessage 502 err.text (utf8 "connection")
  else if isTimeout err.text then createErrorMessage 408 err.text (utf8 "timeout")
  else if statusNumber err.text ≠ 0 then ⟨statusNumber err.text, createErrorString err.text, []⟩
  else parseErrorType err

/-- The statuses of a `*net.OpError`. -/
theorem statusCode_parseOpError (noerr : OpError) :
    (parseOpError noerr).statusCode ∈ ([408, 401, 405, 421] : List UInt16) := by
  rw [parseOpError]
  cases noerr.err with
  | syscallError text timeout => cases timeout <;> simp
  | addrError text => simp
  | dnsError text timeout => simp
  | other text timeout => simp

/-- The types `parseErrorType` knows. -/
def GoError.typed : GoError → Bool
  | .urlError _ _ (.opError _) | .urlError _ _ (.other _ true) => true
  | _ => false

theorem statusCode_parseErrorType_eq_zero_iff (err : GoError) :
    (parseErrorType err).statusCode = 0 ↔ err.typed = false := by
  match err with
  | .deadlineExceeded => simp [parseErrorType, GoError.typed]
  | .urlError _ _ (.opError noerr) =>
    have hmem := statusCode_parseOpError noerr
    simp only [parseErrorType, GoError.typed, Bool.true_eq_false, iff_false]
    intro h
    rw [h] at hmem
    simp at hmem
  | .urlError _ _ (.other _ true) => simp [parseErrorType, GoError.typed]
  | .urlError _ _ (.other _ false) => simp [parseErrorType, GoError.typed]
  | .other _ => simp [parseErrorType, GoError.typed]

/-- Of the three tests for a refused connection, the first covers the others. -/
theorem isConnectionRefused_eq (s : Bytes) :
    isConnectionRefused s = contains s "connection refused" := by
  have h : contains s "connect: connection refused" = true →
      contains s "connection refused" = true :=
    hits_of_imp fun p hp hs => by
      rw [List.mem_singleton.1 hp] at hs
      refine ⟨utf8 "connection refused", List.mem_singleton.2 rfl, List.IsInfix.trans ?_ hs⟩
      exact (infix_utf8_iff (by decide)).2 (by decide +kernel)
  rw [isConnectionRefused]
  revert h
  generalize contains s "connection refused" = a
  generalize contains s "connect: connection refused" = b
  generalize contains s "dial tcp" = c
  cases a <;> cases b <;> simp

end CycleTLS
