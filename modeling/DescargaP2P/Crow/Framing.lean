import DescargaP2P.Crow.Connection

/-!
# Framing of the responses

Without a `HEAD` on the connection every response announces the length of its body, and
nothing else.  Whether the body arrives depends on what came before: the connection is
closed for a request without a rule, and then only the first buffers of the response have
been written.
-/

namespace DescargaP2P.Crow

open DescargaP2P.Text

universe u v w

section Serving

variable {η : Type u} {δ : Type v} {σ : Type w} {app : App η δ σ}

/-! ## The announced length -/

/-- A reply that is written before `handle` returns. -/
def Reply.atOnce (files : Bytes → Option Bytes) : Reply → Bool
  | text body => STREAM_THRESHOLD ≤ body.length
  | file path => (files path).isSome
  | thrown => false

/-- The end of the head and the body. -/
def ending (body : Bytes) : List Buffer := nonempty [.text crlf, .text body]

/-- A connection without a `HEAD`, behind its last exchange. -/
def Connection.behind (files : Bytes → Option Bytes) (before : Option Exchange) : Connection :=
  { res := resting false false (before.any fun previous =>
      previous.request.keepAlive && previous.reply.any (Reply.atOnce files))
    addKeepAlive := before.any fun previous => previous.request.keepAlive }

end Serving

end DescargaP2P.Crow
