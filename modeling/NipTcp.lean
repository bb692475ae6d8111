import NipTcp.Basic
import NipTcp.Recv.Queue
import NipTcp.Recv.Recvmsg
import NipTcp.Recv.Delivery
import NipTcp.Send.WriteQueue
import NipTcp.Send.Sendmsg
import NipTcp.Send.Accounting
import NipTcp.Send.SizeGoal
import NipTcp.Sock.Close
import NipTcp.Sock.Keepalive
import NipTcp.Hash.Table
import NipTcp.Hash.Invariant
import NipTcp.Hash.Listen
import NipTcp.Hash.Established
import NipTcp.Ingress.Rcv
import NipTcp.Sock.Connect
import NipTcp.Sock.Disconnect
import NipTcp.Sock.Child
import NipTcp.Sock.Lifecycle
import NipTcp.Sock.Ops
