import Dataflow.Unicode.Table
/-!
# Decompositions and composition

The character decompositions (Unicode 14.0), the canonical combining classes, and the
primary composites, in packed numbers (`Dataflow.Unicode.readPacked`) with copies
(`Dataflow.Unicode.expandCopies`), range coded (`Dataflow.Unicode.rangeDecode`).

* A decomposition entry is the number `2 × (32 × d + n) + k`, where `d` is the distance of its
  code point from the code point of the entry before (the first from zero), `n` the number of
  code points it decomposes to and `k` one for a compatibility decomposition, zero for a
  canonical one; then its `n` code points, each as the offset from the code point at the same
  place in the entry before or, past the end of that entry, from the code point before it (the
  first from the entry's own code point), an offset `o` written `2o` when it is at least zero
  and `-2o - 1` when it is below.
* The combining classes are runs, each the one number `256 × d + c`: the run starts `d` after
  the run before it (the first at `d`) and has the class `c`.
* The primary composites are the code points whose two-character canonical decomposition
  composes back to them, each written as its distance from the one before (the first from
  zero).
-/

namespace Dataflow.Unicode

/-- The decompositions, in order of code point. -/
def decompositionText : String :=
  expandCopies (rangeDecode 2 12191 (String.join [
    "rvRQ[y+ZbP2GhYWWEHde~^TrJvj$,cht<$lG@,=Ce&&R]@mecbuQd2F]=<m@!I)cFhjFoce4e1_I?AUDCCK/UCKhwLOHkVdUPhlZo$$.;?gc5?lg=rBYOOIH]c%)r<t6cp3]vKZW2X?n]2RT/BC=9.5vjYzq40L4UApxK,<Lsp&jKJTSlXYHq5rMjUL[R=kL1S)VByrTRlh:D)#7(lNnDp<?zmp)&;|Sa93>vdCs#<zhA<D/(Rw[LTw]4.uHr*;s|Kw$<oqntyfi,KpmM&t8&=MsRCL]5ju34vN~3C=imW;qQ6_Cs=94;:m!<*|sp9)oaX_~YV(~GdCJHwfOOIW<+:UjqL;*Yx7]dBcz%qkdsw.Ga8mN&?*jaiK-@y=$sSC)P@;g@QL7u1dUzh<X2qJqHlQ52WkYxQ&%fl;,<n?#,8)K#-V4%[o&&K3eecZw:n/*)/qFDDsZh;q.&<yY16XQEjjI;6DhiM>jYLG@ro6j0dxkQ|Qz9oopVY@p?(uMq:^2m9*!]2y:o!JJweYcQ,Hyt^$pIe!q#>jv,LUAV.16@jHt!CMnE&W@[@0,2ws1RfN!f]!T^NG4>mbe3HWep),-r[dZAXAm0v@6@s^$fwlbV[QMACaGy8G*HO.[kbI?zT@FeEBJo$%D_^$L!A[5iDm8kHAH^FKsRSkkC#=&)pIj9^~I$z^[>_eB8&armHX?14OdG--G@V=y7YU6g,3d7l!i26TQ2<~kj#MlmNQBl0*E6F?LS7Kn/U5m4?r3^e0!)N.8Rd~JDQ]GCmsTDC&+6,h8i>#IMj<>fZrnqpQLUCY~U=qbE2Z2~O9IR$9tX$M~;kRk;8j*%[vnu*58(._$I>NmLIB!?ZNr]~qVE,bK7)ebIV_~HB)YI@YVL?Y24nVB3Xy,G%)s#Y1VfVuf0)[V_s(BJSb&<XvH[T5nT)OUC(tX*D1z6I)wuB[)EB_F9|4j7G4:CXQQVEF:=Y,g5TjrG6XB#k<,6WW1_G!+hEJ~,$4W",
    "Qb!)z.-#Ub.9EZWchEW&A1bc#B+<ISGS:F_pcsOa7BnD?VN+GL=4;.Doc;^%D=Ka#T50&)NT3.9xo^h*<7UD,:zH>(n%]e,nS@zn?sRd3Zjn?~f?1(86,Wqy^fT=$s5qhyr])FHL&xF5&%G*xQuG|dkY8KNhTtJY60A0eU0GadrBrVVBmO!&88>,6!*wzY$^da07HA/XV7a.c_|+jRUSq$;G_Z2E=HzOv].bnx|%_;AsyTSQ?=H.5=%1cKv1GkTI95,9CxKW.->0j|k>YCDgqt]ug(!>i<rf&P8L&/3=T7_p5I^Gr57E8)8^uPKCUJjc-w06=.RMIo3V>O~M%/_nx)igQM%L$n$rD0cge3bQ?G+CN|$wRUY>tlz01+@?q-H[X^eZeIod1Y2?+L+.*2nn+&]Z:!jnaop9&V]>=^=[VtQ~~=[4a[7I5bz2R/qU*&-gj!BIp]pVd>vb;ockev6!t3BYf=-g,V~T@|F0OVWM)!0tFosiT|V+f*H3NN<159AKuZ-[t&B><bIsj4HaQh#FbPSiIY7n+yy5&[$i#<|l0pK64i&oTK6X-FofI,$O6gOWp+>nk*p>9MNJ4NL^icl[IWO?Z]FAbBK]wJi:I7=e/n:HYE&*$v|k)e>5-t6O+0UZy*-hKNbS0ORu):v~*^?|rf.R!B2hQP*Phy2K?N4l+TvYj(o3p0IPYGR#K[ffo-sJt(kE~i>fXz=HziC;rd$8TOE&?i@vSS(-+nOhfjFsV$dv5)q@3Hsoj(F!1PV<ON:5AFZz=K_$P1tR-U7IdS_0K9e!_G~LRjx]S[l%k7z9Ga)0~7[/jUO(;wL2)dw2VjvYXL?[@=SrJ|/V]K.rX8MIKW5UG[0cYy4oTQ-Jit7p*WF1cqhC,[vu#r%MdxGlJubQ8s(jj]u)8C8@p99%BIqGUqUQ#Iv$/qV#ZaEF(n8.Sz:ZV=>wOC^&xv^C/Xr@nV3qU)*%knL|hgtE2hFfxu%AHt%UDbg7D)&0/Ej.UHRe",
    "/I_:2W0>!tL3rh!S5dk!vn>=seQ[7pu_HIPor,bN8E:X*[<I0]&&;*+c*$AMa0MaeO)e$r4s=JxW~oW*@z@*K1x,IuKO~ot_/c@J_$?u1;Xh_95:||tY]cjbCzf6fXA(z-enHXc>U$W!^k5|^E8$atGZ#MY6v-WE#v^f@RYL1&x$h]CWjMg^*6y%7eUoNiGA@Nf)8i[6eJZ;xh?nM>b]XV5g|QIDBhMMSd-y&x!3L(UwZkBSHYPy@EmH7!^x(Yi!ScdPA?>!VJTVr6[TR0_LzE4.#*FVS+S>J&R2JSs?^~>0>FCK;C)+055HqhcDSWvUcA)!$^oYiWhc!P5(&b!O^z(0#fszyUwSpR8:w<Y[<^slp)ChWs7B,6fO(lqoQ04!;V#+yVIc!HTMyiXfCIdCAsjv@1t6@5OCqz:qeJsJa(P;,F+frIbI;Md5ZX=RVK)r<Ui6.k)*tkP-ZQUiT]Z_JNc>%wgfT!<-p4$WBvNpH[3bWoC+PlDH.YNu@cG1[t^Dy==beDQ(-G&L~IgI%IiEMAk8pGqcyD4/98/.o#2ZlK1jOBHa_Oh|m-JV$[ZPW=2oh@sq1j.?%IJrg~?jlrg)EP^a@y7hK=l7QS0WQaL@ev]]t|M!2MaplG@Eg1)1f=t:YEKW?hS+!.pnFs|+!MM,%.n/Ed_|aY0OSOeRzbE(;4U*udG6]TI4^J=])_8dM+PdJjr=A/2EQB+ErrfCq%@:^/V<A^*.D-9q<*a9J9T:%Cnd04X-0PChuObA-25H6w9@pO!qe+JhC0S^$>25?Zi;$K,[oPFRw3=^w$*S0WdyH9KMH&u#tq=ZvX*g_Hg9wB1?VJIz:)9zHBrcspO9+R^SxR|g2/L<g6.Y9:P8NpM@F-HDUk92TuUfYDXYf=*wdS:62@4lTx8b#X7JDHEA4G[/uonwX1ZjTWBQ@DDn];adPfIS+),lIVyk.Mgh^6FsltT0R@OWP86O;?8u.a=x9B@y4>!Z.A)/CzoAL61FrjcD",
    "%AeKH(~Onfp-1h^3FsX~e#ExW(l98)~m74BY[JR2%2=$0U~HhKDi9cEJw[6wr2GL6P,1$eZd|b-3nOEJe3DdvD42z-[PYA*=/RI:NW+W-H08poh4aNXz-c<99JWD*g!8FXXOsV_>RT.Q2G!w~[/9t_:T^MA3rptG@oHkD=xf:Y_+5gU/9/^umxaeTv6&Z-O<69i_!^l/PZR1G!KnNSj4gx)J[bOo=7V:42FNkDB?2%!K_S[q*BD&odrjC*91P:a~a$73vIv?5Mbl6e/,nRx2dj)PLe(sVw*B*E;o6Fx!Z0yIMO]paC1|^,Lw8$au|kXy(scaeZXg)5cYg_pwC&NUm|hw:xjdB00=:4?DjR9p-yEew6D8.19N^<f>d^?tNM,j*E<tYcT84%Dc)p0eZ[zrzMHNr?UD<#?m#-Ul1b|DGBCFV~uGt0yFi_0:h.;]F#4;Q,;ven*_*4cR3IdMkV2GUdoZ*SC|OtL&z#<py4q6jlANzQQd3mWQIM)9h)v/*WwRq7$F.~F*VXM.;ftR;YLlq(W<5ihtkcn[C@:5E%ysA|v+[A))AW)QOJLf%7v]ZSn];1Srm19mdGUkKP2?%c/U*n34u<iD/u-3LHN0.$|#oB1KdU3o)mtxDgZ%6XJ.^*<g;K/xGz6nor[V?$]!=jrhV:6cpuy(Lj8$1r^uBy3Aoz1&NEFxViA.0b?)XCr;M=>JC,mzQv;NZlzM[U$DBVQU;#;A$7NJ^8Uvu]6E5Cu~i(/]h:@%W.AtoK0oVs%e[l98K|Q+o_#THy+Ng1$M=$tSuD1bxIniEDRlsZlo8v#3h|1Ua9*Izoky7aJqoe1nY7fwn5L$*epn!/=J3ja$TL8ek8+T9]6Px<KP#h45V5*WkWv;_QUXnn(g4.VW@xS*Av&5ywnBb*Cdns&CIggEscx3Hkb0khru[P=Kx0t9fB7WH?4Rx:%)ob1XeQ.17xGPFraUT+jZFkx!.7,N0M+b:DHv:J*zN~|E5rRU)U@_m9V6",
    ">t@6ftq915*HaCx88okp^RQSD:)WMmc4-oNEzUs4$|m*FqfCjle(Fr#Pms6hg?Xlf8__09P!qy2=&~lun/@rR*%2B8h/917ht2q(rPi?^Ka2(p+o74x.sM1-Xr,ic%/=sa+wbixp?gmj-qa5?hWs5BzxO[_CoxvIy>H!LFySSz-g4aEL,/o<u)<K-?FLLMjY%5KH6xt3YQ8gX;dEfc(%?c~mF+3Y16;U83t,?TP-d*8gwnB+t59kbj5%YxDGoa%xDMZ5<G*e5x||elS7=)IC8Xp<v:G_OExgZ4]86pHoz[z1zU3?+cwJ4~9Oe.H:JMUZ1#i$ejd5yt-o$?-5&Y%,?5Fdi~DZ:C0YcDV:WAe+j|9/?2_<4&M=Y8b_dx&y|#9*N4nIpdq.~c5E.pZ&^[MN^GCxwq%W2N@eJg=qEYmdP>u:~:9RM9C5_cQhXBz6pS|B8~m>>uDXb,]&K0Q$[okXYqd9qk0=OQ9o=0PEvEOE_*qD69Jz0|9U~D%QcTphhfDvH(FXH?%h5Wt#8P_>YInA@=Qn7j~0B+p07_7xu#J,]Pcz_TFU-iT]D%GBANKu^_eDCxn_(df#^AZ12PYjuEPJFLn%;mW;:Z.:7ThpU6JW73K3VQHm5/&Qem$Fh~(R]MU%AiOo.BDq6H,_KN_P|b!cbvuk|k9,OE+&Apw_%cN%G!_h$gIUsBHSywF3|A%YVX;)pauiF~OLjgae-?(TrXAp4wn-lJ]U!qGd[k9)P_qZHFTUq[!z_I5!8:9~DqO]G,:@FaT_wrNL|wVuKS06.-ih*oEoVi-Edk7XdLwGU&5[M=7~>#i?M_p)I,8,X&GhF8?z=)2=+KAsV?mKMUh6T_GMy|j8t;+t2~|v@%;a!c$YxtzbET0nY^6k&c%N*MOtE*%tl-3|7SY6>geD4+_6Mg|gRRuM0x6:VQ%1LOF412A^O(%+I6Es!*GTWCO>)HzC~nT=3G^Te0C-r<DSr?-4^|[+T0z.pC1cXeYvQ6<;seG3",
    "4PmdA2z,:?jD*c;6$mofNm*D,XwAJoU*=GgfIyXi(%[(pr-n|Xs26<nZ4a4IFag4U<Zelo/8P3Na#nrSdOlG=^v[&x5Rvs(Q()[,o,RTDK(rkRV7ahg64_[cn38=,ZJn>eI*k@cQV*19,sIpn+k]Mqx.wDLb8vz>TWT#q/LpiR3h<>S|MleFQuuC+oy.K3HJdxg*a!110&wl9>@*[*m<N;Wsm]Z<KJeL#48+nLPw0A_<#_H-UF=&$8!Z.+tJWxKg[<e<<ANkap#L3H*J;I:l%,gxL|vgo.+?4&bao8=n1w^oeBU!LPKkY[tRy94/X24#Pz[vR0UaG7H-g*yG&mC:6[b4&88rV&|YB*omamtX)%v9z9giDd+.y#?2t6)v&4LK(;l*icTyti&v773Vk0~-qXmAVKhgI;_<=<&R4;z<Thl4RyB3fE8]u@OGmvl~oeT.T3t5QZ-Sd@Psj$ET%NdKw/3z8gzS2RqF+7k74x[I,(PDudm.a%H@CfU=v~18,kV6~FQ*@;fOW^6oa[z|85_8RHM$cK?cg@ngUVErI;Uu|_(d9mIGRE6xJwlD|9$sYgGY?r%+N6SN,Cysh;2kr3N!b96Oc62/1f.W>m.6agzaF[Vi|gAGBGR<9WWlWDceVTUjg+Ob^FGS9%H[]Kj|g^<taY.-ILJmcmd5Reyo-6LPIZi]mD[:?lf%ZJdpH1UbUz#*XMevq(krX;kXZE(y[0S>|d+9;5v@8UN%kB-jVINJTRaO=[gfWfsQL5Ec+HVorbLfGRfqm>Jrplqi<.-nx0!PW&1j$EHR,gBa3wx=k=lI$p]GH[|KR;PE*!pd!.45iMw4W#$mjA2kE%576^QS#qC!T5kBpAX#6Xc)^pn5oNRZd3:?pXKgxP1f?w4nZ^Zr$UOLr>W?HE|FNMPHk6$7,Y4X~._:V_X6$(t*kxw1YjdXjua-*hFIS#~9ij1Ss5Dl4qLbd9Y|KNfUr8:4BWz??i@gc=saJa!JyB@G6[PL&P50",
    "Q?46T$~+O3AW(&gg>ybE+=9TpMH(YF~K_cO6~rHIUSePN<y!).Ss|DbgEHLf&^pohIV.66^uE3c~Q8e$0=_9e]^BSxihw,,evzV(g-w7xkvP.NPlTL!wTrUp[8yylCKi;*oURp*nUEWv>F6D%;&+uMk85laT_fW=Vb8H;V;-[*)E]O.hoGdUjR|nv1-paS%EG:%P0:[:*/BVKIN<4GF+TO3yb!%3(VhhSK$nU2*_Pq-!C1>A>H3]A90fU!7NWaaW^_f|E$A0iD]TbZP_!xy4fN^6H0ADx1j08PnX66Fe?dp7:;5|R:#9.K^n*%I#Vt==Qk3gn;GSz/m(l]-T??ffsR90=BLPF-l43Vkf1>QfO/@7&I4SNlYJF:)g-1^l;D[>tD~ydfur13fs~dt6w8xKs*n)t2SK(s5LR?]ncf|DJH@HWGi4TZ~g(2pUJ;RvVyT|HSF2*4Tjs>YxD2icc.vf9#!aN]b7R=)iNbNH-qm#TtT3S9(zZDJc4Ycf=X;Ipx:A)QfVHyT+j7j/MnyQ2o)<VhdJPBc3~Z3XF/IBl^:,2!#Dnu5(v9DaxwMqQ9~1B<$JT-qU7.d?.C5>!O.n9U*lHSLB6tsv[A|E:tQT:tRLtO2[E~D>(P#?I&2Sgm$M,<E0Nboc%LHZ_m=4dMhJmySHy_-mExASQE)],F$hMj]8C8Je|!+=Y~BMC&u0@38sMX)S^Vy1Ez@1H/vB)!^30o(UhG,d4i0ov.w+BFRu5VB)@f88S)HY!y^rj<mN85&Qn9glF3>tqBXIQn|Xotz9,5#BJjiKhxLrwvWL@Lv>:hX><wr^,6sH[_~QY83Gu#LV=bAn%>/aU#--d<_ZQi@h*L#=Frg5:N>^JM+/ni|n7[@7?R3zG?u(Db;r%Y+z+&S*g[n/#v5-4,JIv]CEF_K0WVg~1:E_~rMcu2grNWzbOCFiT|=?[XU-[Wr$,>4F]9^t<N_Li&%SQRF1V+.a47U9W+^hlJ<gpELqdLUPqWBB7!%8",
    "(iT;mb+WNm7EGj!ztW8WwAlIn6mA6C#>&HScq.O6#(Fj!w!Q|0#l%*/fshqfqxKb.54q<n;<7eT,J:%0<FmOZ_v9[V.x~Q&gqCLsVNRXgmKYcJEqlMnFmg<zbaY@8:G1$byy1;K5v|[3*wcRmQa^h[S)^ezmW[HxcQ;v,R$C$|i$-*C.$M&FiFS4)dw5Zxi(nF!JoSx%kxOYpd7@%VW@_tz!dmB8cJY|u<-0=JBns=ktxC~_Vv?anm=O#(HOk4gcbvIj[LgO*;?-1^4KoWB2Dc84AuGS1eb9Jz<Z=a^Je/pEOH~Jwq;xAr74:?62,TIax2HxU+s6$A|_Yr)PoD_&W~Em.cEpR&!7^exP>:n4g5<gK#y+l:vCQ/!^YEAZaWyEx/_kV*<>OaJ(%nHbE4!]LQU,i!x[7]uamQ$HK2TzsY1,A:EG^h&n~#DtFinaE?kY63co0B8Gg+#f2_yaf(Y:Y(;oi=w!KV2I*fT58L4o^KYnWKPN!N.Pn8[OUuY<V[Lf@6f(<5yZGBR6XdUnezB;ka;X0*L,:S:]zXTb[vW9)Rt,8dRvG(Iw(&Dx@E4i[^PzY$G8iQZnLXs>u<|WI-Vnx%f39FEK$xP+73~quVq_%VfxOCK5qyD38n0*KqWS4@IACmxcQ,0YuBN|v:bB*WL/_$T,~]z+LkXNZIZ-EA_hQ:5E+3O.FADT1H!Atn.5Yf(3>]O^v[u9-!G<xRf6IVxF^%2um)D6jlqjr2GcjZ)XK11~L|KXD>nV6<y?tb4R<Gd8R69eWP]U0N9!@%/LW40-WKjfcz3/u^+u4/[xb2t#uwe6UxA~|F_PHLAc~v;,Qt9y*<QRVb8T(t4$gHR90SDx=@KR6:KDUY4MY1~Z!u[Tak@zlJxYXwV]zU@<tKAEG]W*|wd<%av/@keDz?XUmcF+N-<$reK;^;N@Y&K9u%e?|dxknu8+hp9y-#jEJlw/TX9d$z!lwt?Lf2Hke!F]OxpZn9Ce^9A>k%ZvWU!>!G<D",
    "I!^N1Dmf:$wv!k1f@Nb?:4Fb5V>RB<ne#@]VB5zz5:A$bmf#@6ME:pgH^/%/t~g@&f!Di3276y5?n<X:~C;lm+h5k[$0V0hTv6a:pJ_FJ~LgL)Jy!3H:KIqNr+W8vo%g?R6U=D~RSt@$(pasyGl|xHnr&&LWRQ2$:xY^lhyPzmGf7xs<Di3<,:aO#HOrU>*iD%eWWqh*cy|+C)$y3mV1f=6YGCO[U>Xu&i*/enIh3Yu($Bvh.6*HPRAQzeF~Xi1:VVq]/jNCB,l4!)ZEMPg2e>p-3aW_F0>-fg3OT&R,-T+_%F=;C=W>(xSV=.@)XM[9_Y?qu@WE,#Xf.$,a+|NzS:M]QJ-P~+5y)~>$)J>b7FfPkiQ?GTKc;Z<JHY0tcEZ(ZF*Py+cF1m[tUX0RK,v]EB5]~:GA(=CD|Pf=O3-(5hkQKNe.hv3opvg%DZ4J_6ESrybik8^IE)dk.k,g)[(ME%kn]0KqKFTM?<l8gD@ToDxia75:O72I9%f.8&^]AL1K9@30uINCX_=UHGW8VhK0xUW^@uw!jbp(V/q~cH!EFqUET/-C&T!tAaVQ)A#TK:w(amlIl40Gn&_~)F4Q1:(0I;Kb%vHiK-mWT]K0Z]uMnnu]xtLMo0?eGd1qIO|lW5Y=A$xi!HeBjK*Cal=4Cq!~^JW0sP>D%qU#|Sf@$[YV+8Ltw>#6c?z7Qiob|Xr-QlBJ/1<[#y_BmCN)-zRmd[.[%6e)rW#Ptk*e+@Lx1hwt%WK[Ma?kg>SQ(Hvz$&LQ/FK$B9,2$3w.yjXn&IZo*r^r$@.?(jD*GN#2f~]S^F;:omI(]4tL?N9Nf~7I+@zQCE2[q3(crgDwO@q*fN;kO<Hs|<zy6:[xB)a)a$]h/]KhfikcWewnU6|nMp[@9*5N8)3W;oc$EtZ|,q6M&[sM[S-8k=JyFTiiVn==,BKqM-&HVf8ab/f87vPN:w/^BP/f?&)Ml6?(hn1ms+dd9M,|fJQHjyC:&+E/i:HB|J^#dW]-",
    "um=kr9jFYaks8bN[PVry(.+yo-$)fd9$3<UjTF*[Sh*BgIYIWGv!e-o67/7Myh!6|uB2kbY*btI.McJ&~K4D5@g]Pb66@JC#Ftj;E2.g/66;Adoq1g7ECPr2ngiEc(2E4#;<msh1(Q(:8_)@<?dCM[zla,/>:cM5@lp8dkrgM46EtXKC!|K/5-8TD;3_qo&p(<-%vJ4GIYL8q>$9cZ4iWHavBlYa:m)?jNjd~IC@R#vu?4J)4Jt|_Qv[NcWYUPhGo#]Mq&g]zGVP<nO~R1_cR,daiayyH99)ASG2_Jb<,A5G:~lq0HQViCdpL#q3pT6DItwO&^^H1P0]|1>vV8Om5H*U2;(jjNFZ[cfIt(,?&wc-:J_3.faC8p45jw?4a5.dSa,C]<o5Zr@:w__7Q*sbsw6XJw~#Y<JC!J)ys?[w5M6ll7PLvd=3Z7#RLDdYS)1TY8H!dz9W(IU!gDTHg;v_cKoo!.z>985nx6BYz-0uzW88;ek7y.HBe)ahKhvo#b,?&c&%z+;*]7AJXn&0@qFm0HwheYP<SPh8U|6_7c.;yeQR<m/TM;p<<z.XfNa%Qc!zo|2c3GW)>Bdi8$G,i/C1UV~,f$vzBMh%iBA*|8)5a-UJFjhDXrpS$EuOGMEAx&IU2lyp9S[xA_YNyeaX+bzs;pDdg$m?C8xG/YT<*qqoYx[~eQ$8*tEz-0h2O/H?2+>Dg!nSCnbmKZL$j1|xehza^/qR%Kmx:7E~8yyj$eKImHuW88@!EAu819e4&b(e4k)r54@#!>nB*VRV8Mm@O=%OF3FPM=/^)8|aJ7<5l/gH0kmg!>Kr<OJns9z?un6<DoSm3fR2,|2-!jz:tmL0f2Zm3XUC$Pdgdyj_!O0>9^,1tk2hTeMISwl~oD*<i~*/oo0%AL2w&r1z6xO5mQBKTT+Pp/=njvpy=WZVz1mClqDaBK#?0!PM*>Z2h|)<Vwu[Z!FWn%IvSdG^o!5b0rX)DM*/Rq!*9/[A5!4CcA^kfm;1",
    "FS?CSf&~2I*QjE64|N:#@A@M~H<Awe*Z,mS<$g]EqLa,Ii(1Ga|nD1mUm!hj_aMjY4<5>uAQBJS18b%o~cuqh*Tq8!ez|&!*Jtw%[=^r);>&|bbpSx9UjIL1n]j$<D7~p9m,_pb:8~8l.U@bMtnS=4*_3[y_QJLbgZ3!K$5M%+@E_fHhGf.%s<=1LWVw4Kfd6:^@?g<Q]:-??,5QK[+PT:w:tK&dAHdk8sTBv4(>pR&0$vzj<i&w))hhV+m/lI*?IVOHz2i%x$A~]56$/@f3|F^5UOMP|?yEs@d1|P1l%fo/*lNJ;%S7a+^$1An.ekr^3Yv@#.b8[]e3T(zZ(k>|hmB(s.c=Ww7cS^uDYI.4kPg~~R!Sxwn)8^~3x>3Cry60wgGFcMM?y>eZbb5UlZ$M..%_!s=5LB:IN8alEl57fgCb%DExP9w:nUtC+^IhS#c!q|TsY~iiM1jU+ggDX$.;eh2T(TWvyPY)W4WsiM=[IQ.6#(ccccov$x=sY$l)D5Xqxw60DQ(J,<J1%d[J%JCQn@]|]b98JV*QjxRi-:wS1|ld(11Rnl=(ch0<M_|I$L-E.xA*,dzdM^ol^i6E$+(Ztrw:uV7Crvktudj0V$<[q&K#E7i$1b:XAQ..J)&?rVh"]))

/-- The runs of canonical combining classes, in order of their starts. -/
def combiningClassText : String :=
  expandCopies (rangeDecode 8 1309 (String.join [
    "#q2_OJKF7bh<x!Ng.VupUoi3>(fv<aI|RRy^]~I|<xhFah+_D1p::jV?H:^]G6_|Yb)ks1vV[]@SHn5wYi0&(oA1$a$5CBO[_4d>E(*Ei1*%:@)PP3)iU7~uKA)jMC/0daH4rBZ/cG9hSEB/f]3Y*=H|mxyl!Q@cg1![96IA!jK;cB~:N]b&_jOU^y9.aWe4W/SQ4%8-xWAITE>F+UV,W95./~9*RGeDK$YPb3FX.HqmdGJHv]]^Gcmo)[]cSd_:<RD^JS,0rn.@x4>.>&D>VupWaA:]_p3DHXP]bx5j.CT6HL#Ypg4d9>imx#Q~~M:W@.N;xM!~uN$L,_k59bn1_vwlYM*C:Ts^.t(u?hh00yKObJj!o/4,sNoZ3btqrWwOaOAeqk@Wy.l~DFXR9=B)ov)8Rl5u_hNrFtWs5Qb|0TP5C5AEInI,mZ~pnd?e&p,=:Z~M4qhpQp6m^(g~G|Bpy*DGy+Y4_e^5Qqk=18+[**w]4*Z.0*8@:yv_T0gOaMIcC#MXW+xw8MTv76F%lB#TJcNt_.tiQPZ!I+B-XacXZ]gU4Qtx%$nFcd0y-yL&5S(:=:>D<_E6#9%)yJen5wLEPY8Qp(;!C+bi6T?xj(jQ5$yA~>C5:7j*swgdQ>(6:|n:m&G+X&R|_eSSJvmTsQZgkJ-EeNoA)rr8>EE37qC_()1q_%YJG&5x[!>*a8tC4~(XwFZfgr:+p(X*(xnK*bEZE&3W]F;u$8E*5fgNwOlg+XE)n+5W]vqvWC|MIUx(;d3psJ~:vphi2D)Fp@MH%/L~OZ<AKRcP+D9fdn&i<r8X>z9i.Kd<Ef1N>F)7k8Gq%U2*Oa:<#B;@6<5:(6REIYgABC(2Z~ov@C.ux2uA.UzBR!dWL&qLHhL+;Ovbt@E-nGlY8Yj1YF[7z:@Z,TYV+>Vt~|PVhT9ZQjJur:uq1=iM:gROnqGF90rIDR2H_5|WB2b;A>uRN?5$Ou(3diyYF=?@Ykbw.yA^dj(XhNi9ZHo1",
    "fa~<q.1Y,)5Fd=g*c0LL<U~;_<RePu;L.18Mp0?!?d|kRXII"]))

/-- The primary composites, in increasing order. -/
def compositeText : String :=
  expandCopies (rangeDecode 8 353 (String.join [
    "li[uaC8;plcUfkn|=Iuyb(yE)yRYlAB7;rNE[r@!7@>NGSV,*=Fz+<1!Ym^~!QO-|;AFr6AED3:0$*~.X7x!!D9SAJ.xaObByu&,VVc7U2+AND~f3<j)ngQ+C^$Bs<|O3IHi3mwb)y1uVSsVMhgIyH;fANM?g5d)WFFMr>57_S>:@/<0wkXKk6l$_~y?g4F|)oH#j8&R<YnWrBb6G,-7h?GTgj:4&]rS1s*Hc<5[+u@wC$_gVy|Q+7HooPo^ZRLEaApA^Qf_c]R5o1xSAvqC%rWA-ihW|/hQXwEMN$&YwSUYlPo"]))

end Dataflow.Unicode
