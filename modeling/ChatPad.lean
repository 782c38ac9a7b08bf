import ChatPad.Main
import ChatPad.Number.Reading
import ChatPad.Proofs.Assembly.Agreement
import ChatPad.Proofs.Layout.Layers
import ChatPad.Proofs.Rules.Allowed
import ChatPad.Proofs.Vocabulary.RoundTrip
import ChatPad.Proofs.Definition.BuiltIn
import ChatPad.Proofs.Layout.History
import ChatPad.Proofs.Layout.Shape
import ChatPad.Proofs.Vocabulary.Order
import ChatPad.Proofs.Fragment.Caseless
import ChatPad.Proofs.Definition.Caseless
import ChatPad.Proofs.Search.Caseless
import ChatPad.Proofs.Parser.Caseless
import ChatPad.Proofs.Layout.Caseless
import ChatPad.Proofs.Touch.Chain
import ChatPad.Proofs.Touch.Eager
import ChatPad.Proofs.Touch.Search
import ChatPad.Proofs.Touch.Outline
import ChatPad.Proofs.Touch.RoundTrip
import ChatPad.Proofs.Layout.Directions
import ChatPad.Proofs.Layout.Touches
import ChatPad.Proofs.Parser.Trace
import ChatPad.Proofs.Bytes.Parser
import ChatPad.Proofs.Config.FirstMistake
import ChatPad.Proofs.Layout.Stricter
import ChatPad.Proofs.Bytes.Ends
import ChatPad.Proofs.Outcome.Apart
import ChatPad.Proofs.Outcome.Bijection
import ChatPad.Proofs.Outcome.Arrangements
import ChatPad.Proofs.Sides.Shortest
import ChatPad.Proofs.Parser.SingleToken
import ChatPad.Proofs.Touch.OnScreen
import ChatPad.Proofs.Bytes.Verdict
import ChatPad.Proofs.Bytes.Lead
import ChatPad.Proofs.Search.AllOrNothing
import ChatPad.Proofs.Layout.Log
import ChatPad.Proofs.Sides.Words
import ChatPad.Proofs.Sequence.Longest
