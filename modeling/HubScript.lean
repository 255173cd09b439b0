import HubScript.Proofs.Acceptance
import HubScript.Proofs.AnnouncedAwaits
import HubScript.Proofs.ArrivalOrder
import HubScript.Proofs.AssignedValues
import HubScript.Proofs.AwaitedCalls
import HubScript.Proofs.BlockBodies
import HubScript.Proofs.CommentCollection
import HubScript.Proofs.CommentErasure
import HubScript.Proofs.CommentPlacement
import HubScript.Proofs.ConstantForms
import HubScript.Proofs.ElseComments
import HubScript.Proofs.FailureDepth
import HubScript.Proofs.FoldedNumbers
import HubScript.Proofs.FoldingAgreement
import HubScript.Proofs.FunctionInterfaces
import HubScript.Proofs.HelperFunctions
import HubScript.Proofs.History
import HubScript.Proofs.Indentation
import HubScript.Proofs.LegacyAgreement
import HubScript.Proofs.LineNumbering
import HubScript.Proofs.LineOrigins
import HubScript.Proofs.LiteralRoundTrip
import HubScript.Proofs.MainBlock
import HubScript.Proofs.MotorSetup
import HubScript.Proofs.NumericAmounts
import HubScript.Proofs.Outline
import HubScript.Proofs.ParseAnswers
import HubScript.Proofs.PauseScaling
import HubScript.Proofs.PhraseResidue
import HubScript.Proofs.PrintedArguments
import HubScript.Proofs.Refusals
import HubScript.Proofs.RemarkPlacement
import HubScript.Proofs.Replies
import HubScript.Proofs.Segments
import HubScript.Proofs.SensorCalls
import HubScript.Proofs.SensorMethods
import HubScript.Proofs.SensorSetup
import HubScript.Proofs.SensorTranslation
import HubScript.Proofs.Spans
import HubScript.Proofs.Subexpressions
import HubScript.Proofs.TokenLines
import HubScript.Proofs.TranslationFrame
import HubScript.Reader.Folding
import HubScript.Service
