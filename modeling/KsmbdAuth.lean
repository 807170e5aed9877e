import KsmbdAuth.Wire
import KsmbdAuth.Machine
import KsmbdAuth.Logic
import KsmbdAuth.Ntlm
import KsmbdAuth.Blob
import KsmbdAuth.Sign
import KsmbdAuth.NtlmSpec
import KsmbdAuth.AuthSpec
import KsmbdAuth.Authenticate
import KsmbdAuth.Descriptors
import KsmbdAuth.SignSpec
import KsmbdAuth.Slots
import KsmbdAuth.Conn
import KsmbdAuth.Ntlmv2
import KsmbdAuth.TargetInfo
import KsmbdAuth.Challenge
import KsmbdAuth.Conversions
import KsmbdAuth.Exchange
import KsmbdAuth.Exits
import KsmbdAuth.LaterCalls
import KsmbdAuth.Negotiation
import KsmbdAuth.ErrorCodes
