import TagDispatch.Derive.Expansion
import TagDispatch.Derive.Lexeme
import TagDispatch.Proofs.Coverage
import TagDispatch.Registration
import TagDispatch.Script.Closed
import TagDispatch.Script.Coins
import TagDispatch.Script.Loose
import TagDispatch.Script.Schemas
import TagDispatch.Proofs.Access
import TagDispatch.Proofs.Arms
import TagDispatch.Proofs.Isolation
import TagDispatch.Proofs.Acceptance
import TagDispatch.Proofs.Evaluation
import TagDispatch.Proofs.Emission
import TagDispatch.Proofs.RegistryLaws
import TagDispatch.Proofs.Refinement
import TagDispatch.Proofs.Chains
import TagDispatch.Proofs.Execution
import TagDispatch.Proofs.Protocol
import TagDispatch.Proofs.Names
import TagDispatch.Proofs.SelfType
import TagDispatch.Proofs.Turns
import TagDispatch.Proofs.Clauses
import TagDispatch.Proofs.FirstGuard
import TagDispatch.Proofs.OnDemand
import TagDispatch.Proofs.Forcing
import TagDispatch.Proofs.Mismatch
import TagDispatch.Proofs.Checked
import TagDispatch.Proofs.Cutting
import TagDispatch.Proofs.Silence
import TagDispatch.Proofs.Drafts
import TagDispatch.Proofs.Recovery
import TagDispatch.Proofs.Tokens
import TagDispatch.Proofs.Respelling
import TagDispatch.Proofs.Messages
import TagDispatch.Proofs.Places
import TagDispatch.Proofs.TableLiterals
import TagDispatch.Proofs.Rules
import TagDispatch.Proofs.TableBodies
import TagDispatch.Proofs.TableLiterals
