import Lexing.Expectation
import Lexing.Main
import Lexing.Proofs.Scanner.Cut
import Lexing.Proofs.Scanner.Scan
import Lexing.Proofs.Layout
import Lexing.Proofs.Number.Nearest
import Lexing.Proofs.Number.ReadBack
import Lexing.Proofs.Redisplay
import Lexing.Proofs.Scanner.Bytewise
import Lexing.Proofs.Scanner.Session
import Lexing.Proofs.Scanner.Safety
import Lexing.Proofs.Scanner.Faults
import Lexing.Proofs.Text.Lines
import Lexing.Proofs.Location
import Lexing.Proofs.Scanner.Results
import Lexing.Proofs.Concatenation
import Lexing.Proofs.Scanner.Halting
import Lexing.Proofs.Interfaces
import Lexing.Proofs.Scanner.Outline
import Lexing.Proofs.ReservedWords
import Lexing.Proofs.Number.Spelling
import Lexing.Proofs.Classification
import Lexing.Proofs.Scannable
import Lexing.Proofs.Dump
import Lexing.Proofs.Report.Rows
import Lexing.Proofs.Report.UnknownCharacter
import Lexing.Proofs.Text.Utf8
import Lexing.Proofs.Outcome
import Lexing.Proofs.Text.LineSplit
import Lexing.Proofs.Text.LineScan
import Lexing.Proofs.LineRanges
import Lexing.Proofs.Spans
import Lexing.Proofs.Respelling
import Lexing.Proofs.TokenOrder
import Lexing.Proofs.Text.DecodingFaults
import Lexing.Proofs.Loading
import Lexing.Proofs.Text.Around
import Lexing.Proofs.Report.Carets
import Lexing.Proofs.Number.Grammar
import Lexing.Proofs.LexemeKinds
import Lexing.Proofs.Report.Gutter
import Lexing.Proofs.Report.Printed
