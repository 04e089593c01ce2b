import Dataflow.Unicode.Table
/-!
# Binary properties

Sets of code points (Unicode 14.0), each written as closed ranges in increasing order in packed
numbers (`Dataflow.Unicode.readPacked`): a range is two numbers, the distance of its first code
point from the code point after the range before it (the first from zero), and the number of
code points in it less one. The longer texts are range coded (`Dataflow.Unicode.rangeDecode`).
-/

namespace Dataflow.Unicode

/-- Code points that may begin an identifier (XID_Start). -/
def xidStartText : String :=
  rangeDecode 4 1438 (String.join [
    "fS82a>g/#cluKd;7!El_z4vZvcpsyx2hD~N4Lr+NjZN_+L=a[]%GuOE@<_g)HNb7iO&@V/I]9Dih~ne~?Q6Pj&$Grbof[<NoQJoYS<qp+9N8pFWNR/dfP@TSTXN[cHT^h0UtK^R.t(akkhXAS@e!;QP,w(E*aa6UlQ0Tzs@rPlNF6AvDLw-QN]Fuu]$I/:=/e4!)ay6FyC2WY;br2+T#J?P8RI@e]+Px9S^Jv^y45>O@Bn]|Zs(G_DQU$,<l&X>uYq]8oHky:8lMp&Jg!w>bG]UgrR:C!/sEeY<Pk,aG#x-v*/b9:0&zp5g6TG%p=rw:531,s~.)#;dL1:;4,o,;8ero+:T[eOY7@8Sd:%]T!4VW)vao@+1UFlu:t%.Xw!D,MW3U|xlKKYs,P92^-;9hdGv<1MCw(|igiD/LQOI|0~tVv2V3ghTfp/51|!@*=2Q*yl.I..ul1Q5=@G@yg#1Oxh*7f4@Z>YUc>GTm0crtbvp;NJShx2o13EFvUysX7WojZBr!?+)^:9$MsX^6PuN)KmTVnOHJ51@h*86uheF04c%*UAQlFF2*Bo(_r+VZn3E&x2<F9F:9HUv&[i)l8,)taf^qIQT,lmq.*Yv#RKLc[142|m=QK=kE.I!uvN=(#3eoe!~)Z|Q(H%K9U=AV#Uhbj%=)1)z>L49d,2=H[:Uv,Ser!P>nLDq:3,IeO)b#vqmn)MU*^?[<_t<A>g&9LD/@PT3mRz_@gvKXQlKO4>$$.x59n,z<v?2gLb[24BMjVkV0_SPkigpB#3FC8d!zq<|2q45FVg8>St]8[Q_n9D*Lb#[YKNv0LUmK::]qNGhH<l~wjQ_17$*%:z/2?]so3;gkeO_VjuqIC>XGSRQf=pBUVD:Ga?!Rb/d)M=G~G[2Fe(Qeexmo_Oo#ycR+BnQh#*BzPpGm0tLD1;A@Ij2%<2Eu>wCVou<2%_m)R|C%%/ZxQG+7|>giwT)^qO_xV<sk]hZ%|l_xj?qq*Vv+?V.R?x4E",
    "p@.vo;4JzrU3D47.Omz_;V_Z>x6#;aW&D@;;dn=azKoA_Z~Z_SsulFAe|%8eyBITB~nA[Ecbe$Kg.lv4Y953EQ$F^B^-VEwx1Q-M]zO)hVd.@)RY=.zvEA3wLIFLZ@950dFmBgMT!9oALaE|m#HN|?Fq~%bRi%,&9?ZhL7Q)K9jO*&e~e:?_Q%L?VEPqY$J21SbqU$:->UcCaV;#V]0EXu.4I%*LO>W6I|YtsE;*t3B5b).79"])

/-- Code points that may continue an identifier (XID_Continue). -/
def xidContinueText : String :=
  rangeDecode 4 1670 (String.join [
    "STGj~2j[ev6E~-t2mFT5pKb|GdYklY3+d)%.opZ7:#M0wMqL)jV-bkg%/;)bzb+N#XB5rC#ebK*hW-d_g[n<uX&dD[IwzxQ%~urX+@En<X:gFP+g3JXmvs~TO?gOqYE,RM&R#JN&Y/2N|m63IaEiBDw>BEl3LQ%<P$D1IdPzvSG;C9uM<_X.JO+>YyRvIbKISS*@+atcJ]#0qAXuz!O.ien^P&.1UTDT!i6n#hnva@Y,e).1#wJL]f))xUExsZh6Oh/fC6@11O[<cQ5g|IuJEAu@5<~f-HT$V,-?[JZq?Y(zo&;csTc5ariPy+]Z]7Vm_U7Pp_[si9]#xi)37-e?~mvg!I66Qe@7Pa-oF9EIULQR++OwTDuhUOg1$_;k+aklr*@$DOMeMe5v,0pIarc=G%:#IQW#K.v3nn%VLT/2pn_qkYB+]HUGt5m:%xI((8b;WIGL~I%&an$X8b5Ife?VGMW?9|A_$8>yy#zjv]bD#Yv[j1VWtHE8^Nf>9$J]8yJulgVM[Q)j@7SF2rxSN7SMj,sv_k^Vj5&rlK?,.9(>IB4h+;egViW_~nQ0y8bjAGpu.([ze9@6j1Qj4,zryYlar+reOh1;w)8#3,iHYLJ42B:74A?|7o~%I;$g-R[84m[rDX)AN8of,*uAl6V!rMvgum5@G%9psSeh2K$[[q$r1Pf0E|1j>0<q]W/lr].>Me#8I(:6TNqy[NVHsF^4@_7rlh3e+Zin->|9Ef,Pu?=_.x<ufWp$Q21BU+1FA6,Qbu&S5>hne~uvMLZ-:+>T<V!9;*m:uO94eynN&sr<Nj|nY#]05qr7!RN|,J5A3ihqjl#4[cwr4~N-?BolCBx40,B!3NRkaS$g%:r~UGYEq5$ETQc$9Gr;<oRRyla3teyK:+nb0?9rdy)c$w1>TJA0qsPzX8CW^Y1jRh2Fl)7eX@4=,+<JwUBXVcqO$Hyl48wrgdZt.V+]hw.Xt6TcW]lgcMqfSqTU&#t:5mYlC&kUb1W*",
    "Y8Exko~/A9g3)6z6Zy$LV_h<nvqpcy,Ch@W1#,C3ojo]xeU26=c%gG[pEZJp$W)h1K4C|/rX;J:gF<Oe@Pi$ueGHOS]~_GUFj$Kd?I%IRxYO_<-~I42t%vqcZyC;&!de2l<5Nt<TyiZD72qm3I1=)QwcI$XBi5FtIx=K]/X-6Q3|^swW2qrahG7]hMYc*Tn>]&#XBl>01&/>mXy0&C0;Zs5C4^wcJ-k2ZgLhtU?1Pe|/Y8z%~JLgZ~(kGS!u4[MaI1ApE^e;vEzzHa&&UVO;)Tmzga,4Wh=DaM/lATV?jB>c_^Zy!U^rZiisO8HKX<zKM~l+Z@]wyaViuy5-m0zG9pzni61B@oD<!p|D//BYVyvH^~%U!hBPL#_o=zcy*jDNfoH*+;z+Qjuu|?e+"])

/-- Uppercase code points (category Lu and Other_Uppercase). -/
def uppercaseText : String :=
  rangeDecode 8 1338 (String.join [
    "fSx,GRUyg8$EgBQC2@l#;V.4SKKgE7yEp!Q2OV1>*+~:kpo&)/4@4k<F4I*_~5T|t4v#Dg,AbaNh/G/C.=9(g%<EE2Y&<u8~UXpfThe,:!slR65!gfC/Lhf7Z(m-cOQKaH7H-[@1$BEx9IL(/Y,qG4t>n5y;@#?n<#bAdA-QAY(Yv$R(+ji_es;T~OJ:X>|ou,M6)vM#rcP0ckCPdy>gHMQ>XBt:|Xv_J(qAF*;2@V^fvL^7uC9d*iy.A$l6acdL($UB]rX4Dn_snbZ1li5=Z2#>]iLDe6XN[38zZ0fGK|4)PrjV4]aR51(A9&23sz2<A2O7VxyOSwbhX<VO5x4hnhLbF89M3R"])

/-- Lowercase code points (category Ll and Other_Lowercase). -/
def lowercaseText : String :=
  rangeDecode 8 1375 (String.join [
    "kPKjCfT%+&r!DardN!<],9Gx2o1GTN?D5,hTBVy|,?MorSxG7%c5Oqaa*/ZJcC(jt]GK9$BO]h5I+g2pM?hMd~9_$HI=&JT-]l0svM6!)vX:7qW1]_Or#2T^Q^[OhY,o$sAp.A063kw)D_NUX&8$E[NS#*uAk[Am,1a-#K%Ath@hJnp(~bHTR^=OGb=qG/X303Pa#:F:SfJS]Xqd3gSglh#g#RtP!u|S2=t?^b:G*Kz^~61H*oRULLP3&Z~p|nt/-#~]4.%@Rq-~*um-6ISe9:QPK,G+PMAe(mVa*)>Jh$)vo=X4f^|OyZWY!u]vmXFPJS6N%$o6>]/#=UUroAZK(lsrBXxjX/Ej8^QyNum;y,UXJYCi*?IAF!fB?WHj.O*:[F+?%t~B+2$7m"])

/-- Cased code points: uppercase, lowercase or titlecase. -/
def casedText : String :=
  String.join [
    "f<)<R!-!&!(9#A#lY#%&lh#F*#A&k=!M%$#$%#!)!#$#!#6#k/#ki+l<#H,KlnJH#!(!$M$$sMk2$(kw++*M$$elVemh$($H$($*#!#!#!#A$W#)#!%$#)%%$(&/($#)kQ!0!3/kB!&!$,#!%&)!#!#!#%#(&!$%(&&!4B%#uRVkqem5)%%#/H#!(!kptYP5@kckB%%#^(##!#&>##$uVM#/*k,zk^)/&xX<)<zjk,k=F&FkQ-#1#)###-#1#)##pB!$$#L#+|BU0UlpTd|p3dklu1k1#k!##$!$#$%#.#!#)#e#%$*#)#>#%#&#!%)#n_$;#;#A#;#A#;#A#;#A#;#*kr;,#6k~,hkti<)<)<"]

/-- Case-ignorable code points (marks, format characters, modifiers, and the word-internal punctuation). -/
def caseIgnorableText : String :=
  rangeDecode 6 956 (String.join [
    "JTOBT?TNzL*nhO@pWfE;!2r/m(5DEEjHMW40NzqZ6eFJ&Yld7-J>tQPoV?q?asN1*e4O+R<y=gQG&kx,EL<[J3yK0X7LIYn[(_(^:~xgyZo[chzJB.R4Wx=.ls>p3xlY|$F>ojM>/>4s<V@GR/:8k->NpO&]*a>Rf+&4/oWD!ib&JPBS9-+TItbkm84C_)-i<eZ$)MBJs)NL#KMK:]c]xQuefsutiQM^vyR:?y4ZGA;mI,I!APppS]Xu-etrO2~idryn8~FLa~%bO/P)N(TK6eBz8fl~ZxgVbH.(>nfd7@Iq7r)2Eu:osqiMz7u6sOU+Sg5^QvFRg^JBSfMmVsjj52,zbt,j3^z^VM~2P6#PN:=TY,-td]@t[(fOq8xhg#G&&Jaa^M1=J@g)B96xgHpULXbop]7j.4),^C.ms$*)&D!UO3DDf%IbPARX*xD!cf/[gR*l|M~_i!mslz2[~1u1GR~6Y4$5?h9#nSWqa/#~3xoPct7AZ+]RE:bgeQ/F,?+SVP+hG#wAuY<H:/|CueQN|S7&&bGkDPYfi=fI|id1FVF6h1t)9YQ;(+2)fs%kIm?,lg3GL9B~BmgqeP%VJejkj%&nN-tE-9T)6>/u+8w&A[T79ixapg|Ex6L6|L0~hV1/k~hz&6k.5F5CZOWV]<-ZMHMQ#Rf7!9ug@|.*PQvSF-GmRnZzA4aU<40F.n;Bt!8&f_+]VK[2wk$vPL?RVHvQVtnSu-2!HLIWOpwwL[.@+&sE;C2NNN)[g3p-l9RpXY/;kE*#<RUhKPQU_!V~$mGrSVW]U^vI:(3-tutCs0o)_xwR7yd-jy#mC<#F8:YbRt"])

/-- Code points with a numeric value. The first piece holds the ranges up to the first one
past ASCII. -/
def numericText : String :=
  String.join [
    "S,kU#",
    "(!$$klL,ke,l^,oc,kS,&(kI,kS,kS,$(kK/kP,+)kD,kE)*5kJ,k=,kS,k!6m^,k!,t66vL$m@,),9,n7,k^-l<,),lM,k3,ke,),xg!%(),l^U$&t=_k+8s!@kkZ!u*!<+1$nd%ki,A*#1C,J1nP!kZ!w;!uC!mx=!$!%!#!k0!Q!*!#!K#A!+!G!k?!oX!f!E!#!#!pR!#$)!kQ%u7!qN!*!kl+!kb#/$#!x<!k*!zH!kr:!zR!tN!k~R!w:!kw*!&!kY!kxS!G!(!N!kZ!mkB,lS,nK(l1,I,l^,9,k3,o[,yw2!*!&!]!A!#!L!~I,q%O/[4#nb=G%@!+!ke&lc,wC*<)J+k(&9(l7#$2$Pe+W#A$k(&kE*;*L)nU(S,n1Al5,M%kM)ke@k^,a,l&,*6mL,nc,kS,o;,kC,kC.p!5k:,t^?m4,k!,qO7y4kKxmZ,k3,ke,#)u?9klpX6kI;y_Tky^,p$,km2+k^,u8^#$#%k)O#1wW/lm],xV!k?!kZ!c!ku=!k5!+!2!nX!5!>!n|C!kn%!mt$!q|Z!kvs&!"]

/-- Code points with a digit value. -/
def digitText : String :=
  String.join [
    "S,kU#(!klQ,ke,l^,oc,kS,kS,kS,kS,kS,kS,kS,kS,kS,k=,kS,k!,mi,k!,t6+z1,I,n7,k^-l<,),lM,k3,ke,),xg!%(),x$+.+.+k6!-+#!s!+#+#+kqv],sS,I,l^,9,k3,o[,zya,kl1,klA%tS,n1+pj+.,k^,a,l&,mi,nc,kS,o;,kC,kC,p$,kC,t^,mG,k!,ytI,k3,ke,km~OTky^,p$,ko/,ksi-lm_,"]

/-- White space: the separators of category Zs and the code points of bidirectional class WS, B or S. -/
def whiteSpaceText : String :=
  String.join [
    ",&1&kA!=!nqj!kzV-@#(!R!mm-!"]

end Dataflow.Unicode
